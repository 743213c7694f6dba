/-
  The answer of `HttpGateway::handle_upload` to a successful upload, as a client decodes it. The
  text is put together without escapes, so the name of the file, and its extension in the URL, are
  read as a part of JSON text: `responseText` is this text, and `parse_response` what it means.
-/
import ChatApp.Lib.JsonText
import ChatApp.Lib.Utf8
import ChatApp.Media.Confinement
import ChatApp.Media.Multipart

namespace ChatApp.Media

open ChatApp.Lib ChatApp.Lib.JsonText ChatApp.Session

/-! ## The text -/

/-- From the comma behind the name on -/
def afterName (size : Nat) (mediaType : Int) : List Char :=
  ',' :: '"' :: ("file_size".toList ++ '"' :: ':' :: ((toString (size : Int)).toList ++
    ',' :: '"' :: ("media_type".toList ++ '"' :: ':' ::
      ((toString mediaType).toList ++ ['}', '}']))))

/-- From the comma behind the URL up to the name -/
def beforeName : List Char := ',' :: '"' :: ("file_name".toList ++ ['"', ':', '"'])

def beforeUrl (fileId : Nat) : List Char :=
  '{' :: '"' :: ("code".toList ++ '"' :: ':' :: ((toString (0 : Int)).toList ++
    ',' :: '"' :: ("data".toList ++ '"' :: ':' :: '{' :: '"' :: ("file_id".toList ++
      '"' :: ':' :: ((toString (fileId : Int)).toList ++ ',' :: '"' :: ("url".toList ++
        ['"', ':', '"']))))))

def responseText (fileId : Nat) (url name : List Char) (size : Nat) (mediaType : Int) : List Char :=
  beforeUrl fileId ++ (url ++ '"' :: (beforeName ++ (name ++ '"' :: afterName size mediaType)))

def responseData (fileId : Nat) (url name : List Char) (size : Nat) (mediaType : Int) : Value :=
  .object [("file_id".toList, .number fileId 0), ("url".toList, .string url),
    ("file_name".toList, .string name), ("file_size".toList, .number size 0),
    ("media_type".toList, .number mediaType 0)]

def responseValue (fileId : Nat) (url name : List Char) (size : Nat) (mediaType : Int) : Value :=
  .object [("code".toList, .number 0 0),
    ("data".toList, responseData fileId url name size mediaType)]

variable {fileId size : Nat} {mediaType : Int} {url name : List Char} {v : Value}

theorem toList_uploadJson {u : Upload} :
    (uploadJson fileId u mediaType).toList = responseText fileId (uploadUrl fileId u).toList
      u.fileName.toList u.data.length mediaType := by
  have hbegin : "\x7b\"code\":0,\"data\":\x7b\"file_id\":".toList =
      '{' :: '"' :: ("code".toList ++ '"' :: ':' :: ((toString (0 : Int)).toList ++
        ',' :: '"' :: ("data".toList ++ '"' :: ':' :: '{' :: '"' :: ("file_id".toList ++
          ['"', ':'])))) := by
    decide
  have hurl : ",\"url\":\"".toList = ',' :: '"' :: ("url".toList ++ ['"', ':', '"']) := by decide
  have hname : "\",\"file_name\":\"".toList = '"' :: beforeName := by decide
  have hsize : "\",\"file_size\":".toList =
      '"' :: ',' :: '"' :: ("file_size".toList ++ ['"', ':']) := by
    decide
  have htype : ",\"media_type\":".toList = ',' :: '"' :: ("media_type".toList ++ ['"', ':']) := by
    decide
  have hend : "\x7d\x7d".toList = ['}', '}'] := by decide
  unfold uploadJson responseText beforeUrl afterName
  simp only [String.toList_append, hbegin, hurl, hname, hsize, htype, hend, List.append_assoc,
    List.cons_append, List.nil_append]
  rfl

/-! ## Its meaning -/

theorem stops_cons {c : Char} {s : List Char}
    (h : c.isDigit = false ∧ c ≠ '.' ∧ c ≠ 'e' ∧ c ≠ 'E') : Stops (c :: s) := by
  intro d hd
  obtain rfl := Option.some.inj hd
  exact h

theorem members_afterName (size : Nat) (mediaType : Int) (k : Nat) : parseMembers (k + 3)
    ('"' :: ("file_size".toList ++ '"' :: ':' :: ((toString (size : Int)).toList ++
      ',' :: '"' :: ("media_type".toList ++ '"' :: ':' ::
        ((toString mediaType).toList ++ ['}', '}']))))) =
    some ([("file_size".toList, .number size 0), ("media_type".toList, .number mediaType 0)],
      ['}']) := by
  rw [parseMembers_comma (Text.forall_of_all rfl) (parseValue_int size (stops_cons (by decide))),
    parseMembers_close (Text.forall_of_all rfl) (parseValue_int mediaType (stops_cons (by decide)))]
  rfl

theorem members_name (size : Nat) (mediaType : Int) (hname : '"' ∉ name) (k : Nat)
    (ms : List (List Char × Value)) (t : List Char) :
    parseMembers (k + 4) ('"' :: ("file_name".toList ++ '"' :: ':' :: '"' ::
        (name ++ '"' :: afterName size mediaType))) = some (ms, t) ↔
      ∃ name', parseString (name ++ '"' :: afterName size mediaType) =
          some (name', afterName size mediaType) ∧
        ms = [("file_name".toList, .string name'), ("file_size".toList, .number size 0),
          ("media_type".toList, .number mediaType 0)] ∧ t = ['}'] := by
  have hkey : "file_size".toList = 'f' :: "ile_size".toList := by decide
  have hrest := members_afterName size mediaType k
  unfold afterName
  rw [hkey] at hrest ⊢
  rw [List.cons_append] at hrest ⊢
  rw [parseMembers_string (Text.forall_of_all rfl) hname (by decide) (by decide) (by decide), hrest]
  constructor
  · rintro ⟨name', ms', hstring, hms, rfl⟩
    obtain ⟨rfl, rfl⟩ := Prod.mk.inj (Option.some.inj hms)
    exact ⟨name', hstring, rfl, rfl⟩
  · rintro ⟨name', hstring, rfl, rfl⟩
    exact ⟨name', _, hstring, rfl, rfl⟩

/-- The members from the URL on: they are well formed exactly if the two strings end at their
    quotes. -/
theorem members_url (size : Nat) (mediaType : Int) (hurl : '"' ∉ url) (hname : '"' ∉ name)
    (k : Nat) (ms : List (List Char × Value)) (t : List Char) :
    parseMembers (k + 5) ('"' :: ("url".toList ++ '"' :: ':' :: '"' :: (url ++ '"' ::
        (beforeName ++ (name ++ '"' :: afterName size mediaType))))) = some (ms, t) ↔
      ∃ url' name', parseString (url ++ '"' :: (beforeName ++ (name ++ '"' ::
          afterName size mediaType))) =
          some (url', beforeName ++ (name ++ '"' :: afterName size mediaType)) ∧
        parseString (name ++ '"' :: afterName size mediaType) =
          some (name', afterName size mediaType) ∧
        ms = [("url".toList, .string url'), ("file_name".toList, .string name'),
          ("file_size".toList, .number size 0), ("media_type".toList, .number mediaType 0)] ∧
        t = ['}'] := by
  have hkey : "file_name".toList = 'f' :: "ile_name".toList := by decide
  have hrest := members_name size mediaType hname k
  unfold beforeName
  rw [hkey] at hrest ⊢
  simp only [List.cons_append, List.append_assoc, List.nil_append] at hrest ⊢
  rw [parseMembers_string (Text.forall_of_all rfl) hurl (by decide) (by decide) (by decide)]
  constructor
  · rintro ⟨url', ms', hstring, hms, rfl⟩
    obtain ⟨name', hname', rfl, rfl⟩ := (hrest _ _).1 hms
    exact ⟨url', name', hstring, hname', rfl, rfl⟩
  · rintro ⟨url', name', hstring, hname', rfl, rfl⟩
    exact ⟨url', _, hstring, (hrest _ _).2 ⟨name', hname', rfl, rfl⟩, rfl⟩

/-- The text is well formed exactly if the two strings end at their quotes. -/
theorem parse_response (hurl : '"' ∉ url) (hname : '"' ∉ name) :
    parse (responseText fileId url name size mediaType) = some v ↔
      ∃ url' name', parseString (url ++ '"' :: (beforeName ++ (name ++ '"' ::
          afterName size mediaType))) =
          some (url', beforeName ++ (name ++ '"' :: afterName size mediaType)) ∧
        parseString (name ++ '"' :: afterName size mediaType) =
          some (name', afterName size mediaType) ∧
        v = responseValue fileId url' name' size mediaType := by
  obtain ⟨k, hk⟩ : ∃ k, (responseText fileId url name size mediaType).length + 1 = k + 10 := by
    refine Nat.exists_eq_add_of_le' ?_
    simp [responseText, beforeUrl]
    omega
  have hmembers := members_url size mediaType hurl hname k
  unfold parse
  rw [hk]
  unfold responseText beforeUrl
  simp only [List.cons_append, List.append_assoc, List.nil_append]
  generalize hinner : '"' :: ("url".toList ++ '"' :: ':' :: '"' :: (url ++ '"' ::
    (beforeName ++ (name ++ '"' :: afterName size mediaType)))) = inner at hmembers ⊢
  have hobject : parseValue (k + 7) ('{' :: '"' :: ("file_id".toList ++ '"' :: ':' ::
      ((toString (fileId : Int)).toList ++ ',' :: inner))) =
      (parseMembers (k + 5) inner).map fun x =>
        (.object (("file_id".toList, .number fileId 0) :: x.1), x.2) := by
    rw [parseValue_object,
      parseMembers_comma (Text.forall_of_all rfl) (parseValue_int fileId (stops_cons (by decide))),
      Option.map_map]
    rfl
  rw [parseValue_object,
    parseMembers_comma (Text.forall_of_all rfl) (parseValue_int 0 (stops_cons (by decide)))]
  rcases hms : parseMembers (k + 5) inner with _ | ⟨ms, t⟩
  · rw [hms, Option.map_none] at hobject
    rw [parseMembers_none (Text.forall_of_all rfl) hobject]
    refine ⟨nofun, fun ⟨url', name', hurl', hname', _⟩ => ?_⟩
    exact absurd (hms.symm.trans ((hmembers _ _).2 ⟨url', name', hurl', hname', rfl, rfl⟩)) nofun
  · obtain ⟨url', name', hurl', hname', rfl, rfl⟩ := (hmembers ms t).1 hms
    rw [hms, Option.map_some] at hobject
    rw [parseMembers_close (Text.forall_of_all rfl) hobject]
    constructor
    · intro h
      exact ⟨url', name', hurl', hname', (Option.some.inj h).symm⟩
    · rintro ⟨url'', name'', hurl'', hname'', rfl⟩
      obtain rfl := (Prod.mk.inj (Option.some.inj (hurl'.symm.trans hurl''))).1
      obtain rfl := (Prod.mk.inj (Option.some.inj (hname'.symm.trans hname''))).1
      rfl

theorem member?_responseValue :
    (responseValue fileId url name size mediaType).member? "code" = some (.number 0 0) ∧
      (responseValue fileId url name size mediaType).member? "data" =
        some (responseData fileId url name size mediaType) := by
  unfold responseValue
  rw [Value.member?_cons, if_pos rfl, Value.member?_cons, if_neg (by decide), Value.member?_cons,
    if_pos rfl]
  exact ⟨rfl, rfl⟩

theorem member?_responseData :
    (responseData fileId url name size mediaType).member? "url" = some (.string url) ∧
      (responseData fileId url name size mediaType).member? "file_name" = some (.string name) ∧
      (responseData fileId url name size mediaType).member? "file_size" =
        some (.number size 0) := by
  unfold responseData
  refine ⟨?_, ?_, ?_⟩
  · rw [Value.member?_cons, if_neg (by decide), Value.member?_cons, if_pos rfl]
  · rw [Value.member?_cons, if_neg (by decide), Value.member?_cons, if_neg (by decide),
      Value.member?_cons, if_pos rfl]
  · rw [Value.member?_cons, if_neg (by decide), Value.member?_cons, if_neg (by decide),
      Value.member?_cons, if_neg (by decide), Value.member?_cons, if_pos rfl]

/-! ## Its bytes -/

/-- The answer, around the bytes of the URL and of the name -/
def responseBytes (fileId : Nat) (url name : Bytes) (size : Nat) (mediaType : Int) : Bytes :=
  (beforeUrl fileId).map Char.toUInt8 ++ (url ++ 34 :: (beforeName.map Char.toUInt8 ++
    (name ++ 34 :: (afterName size mediaType).map Char.toUInt8)))

theorem toBytes_uploadJson {u : Upload} : Text.toBytes (uploadJson fileId u mediaType) =
    responseBytes fileId (Text.toBytes (uploadUrl fileId u)) (Text.toBytes u.fileName)
      u.data.length mediaType := by
  rw [Text.toBytes, toList_uploadJson, responseText]
  simp only [List.map_append, List.map_cons]
  rfl

theorem ascii_toString {i : Int} : ∀ c ∈ (toString i).toList, c.toNat < 128 := by
  intro c hc
  rcases Text.mem_toString_int hc with hdigit | rfl
  · have hrange := Char.isDigit_iff_toNat.1 hdigit
    exact Nat.lt_of_le_of_lt hrange.2 (by decide)
  · decide

theorem ascii_beforeUrl : ∀ c ∈ beforeUrl fileId, c.toNat < 128 := by
  unfold beforeUrl
  simp only [List.forall_mem_cons, List.forall_mem_append]
  and_intros
  all_goals first | exact Text.forall_of_all rfl | decide | exact ascii_toString

theorem ascii_afterName : ∀ c ∈ afterName size mediaType, c.toNat < 128 := by
  unfold afterName
  simp only [List.forall_mem_cons, List.forall_mem_append]
  and_intros
  all_goals first | exact Text.forall_of_all rfl | decide | exact ascii_toString

theorem ascii_beforeName : ∀ c ∈ beforeName, c.toNat < 128 :=
  Text.forall_of_all rfl

theorem utf8_responseText : utf8 (responseText fileId url name size mediaType) =
    responseBytes fileId (utf8 url) (utf8 name) size mediaType := by
  have hquote : ∀ cs : List Char, utf8 ('"' :: cs) = 34 :: utf8 cs := fun _ => rfl
  unfold responseText responseBytes
  rw [Utf8.utf8_append, Utf8.utf8_append, hquote, Utf8.utf8_append, Utf8.utf8_append, hquote,
    Utf8.utf8_ascii ascii_beforeUrl, Utf8.utf8_ascii ascii_beforeName,
    Utf8.utf8_ascii ascii_afterName]

/-- Every text with these bytes has the same parts. -/
theorem text_of_responseBytes {text : List Char} {urlBytes nameBytes : Bytes}
    (h : utf8 text = responseBytes fileId urlBytes nameBytes size mediaType) :
    ∃ url name, text = responseText fileId url name size mediaType ∧ utf8 url = urlBytes ∧
      utf8 name = nameBytes := by
  have hquote : ∀ {c : Char}, c.toNat < 128 → c.toUInt8 = 34 → c = '"' := fun hc hbyte =>
    Utf8.eq_of_ascii hc (by decide) hbyte
  obtain ⟨fromUrl, rfl, hfromUrl⟩ := Utf8.utf8_prefix ascii_beforeUrl h
  obtain ⟨url, c, behindUrl, rfl, hc, hbyte, hurl, hbehind⟩ :=
    Utf8.utf8_split hfromUrl (by decide)
  obtain rfl := hquote hc hbyte
  obtain ⟨fromName, rfl, hfromName⟩ := Utf8.utf8_prefix ascii_beforeName hbehind
  obtain ⟨name, c, behindName, rfl, hc, hbyte, hname, hafter⟩ :=
    Utf8.utf8_split hfromName (by decide)
  obtain rfl := hquote hc hbyte
  rw [← Utf8.utf8_ascii ascii_afterName] at hafter
  obtain rfl := Utf8.utf8_inj hafter
  exact ⟨url, name, rfl, hurl, hname⟩

/-! ## The URL -/

section
variable {u : Upload} {bytes : Bytes} {cs : List Char}

/-- In front of the extension -/
def urlStart (fileId : Nat) (u : Upload) : List Char :=
  "/media/".toList ++ ((toString fileId).toList ++ ("/".toList ++ u.prefixName))

theorem toList_uploadUrl : (uploadUrl fileId u).toList =
    urlStart fileId u ++ (Session.fileExtension u.fileName).toList := by
  unfold uploadUrl urlStart
  rw [String.toList_append, String.toList_append, String.toList_append, uniqueName_eq_append]
  simp only [List.append_assoc]

theorem plain_urlStart : ∀ c ∈ urlStart fileId u, c.toNat < 128 ∧ JsonText.Plain c := by
  have hnumber : ∀ c : Char, c.isDigit = true ∨ c = '_' ∨ c = '-' →
      c.toNat < 128 ∧ JsonText.Plain c := by
    rintro c (hdigit | rfl | rfl)
    · have hrange := Char.isDigit_iff_toNat.1 hdigit
      refine ⟨Nat.lt_of_le_of_lt hrange.2 (by decide), ?_, ?_, ?_⟩
      · rintro rfl
        exact absurd hdigit (by decide)
      · rintro rfl
        exact absurd hdigit (by decide)
      · exact Char.le_def.2 (UInt32.le_iff_toNat_le.2 (Nat.le_trans (by decide) hrange.1))
    · decide
    · decide
  unfold urlStart
  simp only [List.forall_mem_append]
  exact ⟨Text.forall_of_all rfl,
    fun c hc => hnumber c (.inl (Text.isDigit_of_mem_toString hc)), Text.forall_of_all rfl,
    fun c hc => hnumber c (mem_prefixName hc)⟩

/-- The extension of a name in UTF-8 is a part of it in UTF-8. -/
theorem utf8_extension (h : utf8 cs = bytes) :
    ∃ ext, utf8 ext = Text.toBytes (Session.fileExtension (Text.ofBytes bytes)) ∧
      ∀ c ∈ ext, c ∈ cs := by
  by_cases hdot : '.' ∈ (Text.ofBytes bytes).toList
  · obtain ⟨a, b, hfile, hb⟩ := Text.exists_last hdot
    have hname : Text.ofBytes bytes = .ofList (a ++ '.' :: b) := by
      rw [← hfile, String.ofList_toList]
    have hbytes : utf8 cs = a.map Char.toUInt8 ++ 46 :: b.map Char.toUInt8 := by
      rw [h, ← Text.toBytes_ofBytes bytes, Text.toBytes, hfile, List.map_append, List.map_cons]
      rfl
    obtain ⟨xs, c, ys, rfl, hc, hbyte, -, hys⟩ := Utf8.utf8_split hbytes (by decide)
    refine ⟨c :: ys, ?_, fun d hd => List.mem_append_right xs hd⟩
    rw [hname, fileExtension_of_last hb, Text.toBytes, String.toList_ofList, Utf8.utf8_cons,
      Utf8.encode_ascii hc, hbyte, hys]
    rfl
  · refine ⟨[], ?_, fun _ hmem => absurd hmem List.not_mem_nil⟩
    rw [fileExtension_of_no_dot hdot]
    rfl

theorem utf8_uploadUrl (fileId : Nat) (hfile : u.fileName = Text.ofBytes bytes)
    (h : utf8 cs = bytes) : ∃ url, utf8 url = Text.toBytes (uploadUrl fileId u) ∧
      ∀ c ∈ url, c ∈ cs ∨ JsonText.Plain c := by
  obtain ⟨ext, hext, hmem⟩ := utf8_extension h
  refine ⟨urlStart fileId u ++ ext, ?_, fun c hc => ?_⟩
  · rw [Utf8.utf8_append, Utf8.utf8_ascii fun c hc => (plain_urlStart c hc).1, hext, Text.toBytes,
      Text.toBytes, toList_uploadUrl, List.map_append, hfile]
  · exact (List.mem_append.1 hc).elim (fun hc => .inr (plain_urlStart c hc).2)
      fun hc => .inl (hmem c hc)

/-- A name without a null byte is the one of the file, and the URL ends in it. -/
theorem suffix_uploadUrl (h : '\x00' ∉ (uploadUrl fileId u).toList) :
    u.storedName.map Char.toUInt8 <:+ Text.toBytes (uploadUrl fileId u) := by
  have hsuffix : u.uniqueName.toList <:+ (uploadUrl fileId u).toList := by
    rw [uploadUrl, String.toList_append]
    exact List.suffix_append _ _
  have hname : u.storedName = u.uniqueName.toList :=
    List.takeWhile_eq_self_iff.2 fun c hc => decide_eq_true fun heq =>
      h (hsuffix.subset (heq ▸ hc))
  rw [hname]
  exact hsuffix.map Char.toUInt8

end

/-! ## What a client reads -/

/-- The body is one JSON text, in UTF-8. -/
def Decodes (body : Bytes) (v : Value) : Prop := ∃ text, utf8 text = body ∧ parse text = some v

/-- What the answer says of an upload with a name of these bytes. -/
structure Reports (v : Value) (u : Upload) (fileName : Bytes) : Prop where
  code : v.member? "code" = some (.number 0 0)
  data : ∃ data name url, v.member? "data" = some data ∧
    data.member? "file_name" = some (.string name) ∧ utf8 name = fileName ∧
    data.member? "file_size" = some (.number u.data.length 0) ∧
    data.member? "url" = some (.string url) ∧ u.storedName.map Char.toUInt8 <:+ utf8 url

def WellReported (body : Bytes) (u : Upload) (fileName : Bytes) : Prop :=
  ∃ v, Decodes body v ∧ Reports v u fileName

section
variable {u : Upload} {bytes : Bytes}

theorem wellReported_uploadJson_iff (hquote : 34 ∉ bytes)
    (hfile : u.fileName = Text.ofBytes bytes) :
    WellReported (Text.toBytes (uploadJson fileId u mediaType)) u bytes ↔
      ∃ cs, utf8 cs = bytes ∧ ∀ c ∈ cs, c ≠ '\\' ∧ ' ' ≤ c := by
  have hnoQuote : ∀ cs, utf8 cs = bytes → '"' ∉ cs := by
    intro cs hcs hmem
    exact hquote (hcs ▸ Utf8.mem_utf8_of_mem hmem (by decide))
  rw [toBytes_uploadJson, hfile, Text.toBytes_ofBytes]
  constructor
  · rintro ⟨v, ⟨text, htext, hparse⟩, hreports⟩
    obtain ⟨url, name, rfl, hurl, hname⟩ := text_of_responseBytes htext
    obtain ⟨url', hurl', hmem⟩ := utf8_uploadUrl fileId hfile hname
    obtain rfl : url' = url := Utf8.utf8_inj (hurl'.trans hurl.symm)
    have hurlQuote : '"' ∉ url' := fun h =>
      (hmem _ h).elim (hnoQuote name hname) fun hplain => hplain.1 rfl
    obtain ⟨_, name', -, hstring, rfl⟩ := (parse_response hurlQuote (hnoQuote name hname)).1 hparse
    obtain ⟨data, decoded, _, hdata, hmember, hdecoded, -⟩ := hreports.data
    obtain rfl := Option.some.inj (member?_responseValue.2.symm.trans hdata)
    obtain rfl : name' = decoded :=
      Value.string.inj (Option.some.inj (member?_responseData.2.1.symm.trans hmember))
    obtain rfl : name' = name := Utf8.utf8_inj (hdecoded.trans hname.symm)
    obtain ⟨hplain, -⟩ := parseString_self hstring
    exact ⟨name', hname, fun c hc => (hplain c hc).2⟩
  · rintro ⟨name, hname, hplain⟩
    have hnamePlain : ∀ c ∈ name, JsonText.Plain c := fun c hc =>
      ⟨fun heq => hnoQuote name hname (heq ▸ hc), hplain c hc⟩
    obtain ⟨url, hurl, hmem⟩ := utf8_uploadUrl fileId hfile hname
    have hurlPlain : ∀ c ∈ url, JsonText.Plain c := fun c hc => (hmem c hc).elim (hnamePlain c) id
    have hnull : '\x00' ∉ (uploadUrl fileId u).toList := fun h => by
      have hbyte : '\x00'.toUInt8 ∈ utf8 url := hurl ▸ List.mem_map_of_mem h
      exact absurd (hurlPlain _ (Utf8.mem_of_mem_utf8 (by decide) hbyte)).2.2 (by decide)
    refine ⟨responseValue fileId url name u.data.length mediaType,
      ⟨responseText fileId url name u.data.length mediaType, ?_, ?_⟩,
      member?_responseValue.1, responseData fileId url name u.data.length mediaType, name, url,
      member?_responseValue.2, member?_responseData.2.1, hname, member?_responseData.2.2,
      member?_responseData.1, ?_⟩
    · rw [utf8_responseText, hurl, hname]
    · exact (parse_response (fun h => (hurlPlain _ h).1 rfl) (hnoQuote name hname)).2
        ⟨url, name, parseString_plain hurlPlain, parseString_plain hnamePlain, rfl⟩
    · rw [hurl]
      exact suffix_uploadUrl hnull

end

/-- The upload of what the loop has read -/
def Form.upload (form : Form) (userId : Nat) (time now : Int) : Upload :=
  ⟨.http, userId, Text.ofBytes form.fileName, form.fileData, time, now⟩

section
variable {localtime : Int → Tm} {maxUploadSize userId : Nat} {files : Files} {time now : Int}
variable {boundary body : Bytes} {form : Form} {call : UploadCall}

/-- The answer to a multipart upload is well formed and says what was uploaded exactly if the name
    is a UTF-8 text without backslashes and control characters. -/
theorem uploadResponse_iff {saved : Option Nat} (hform : multipart boundary body = some (.ok form))
    (hok : (handleUpload localtime maxUploadSize files
      ⟨form.upload userId time now, mediaType, saved⟩).2.statusCode = 200) :
    WellReported (handleUpload localtime maxUploadSize files
        ⟨form.upload userId time now, mediaType, saved⟩).2.body
      (form.upload userId time now) form.fileName ↔
    ∃ cs, utf8 cs = form.fileName ∧ ∀ c ∈ cs, c ≠ '\\' ∧ ' ' ≤ c := by
  obtain ⟨-, -, fileId, heq⟩ := handleUpload_eq hok
  rw [heq]
  dsimp only
  rw [HttpResponse.body_json]
  exact wellReported_uploadJson_iff (multipart_quote hform) rfl

/-! ## Names without an extension -/

theorem handleUpload_of_no_dot {fileId : Nat} (hid : call.fileId = some fileId)
    (hname : call.upload.fileName.isEmpty = false) (hdata : call.upload.data.isEmpty = false)
    (hsize : call.upload.data.length ≤ maxUploadSize) (hdot : '.' ∉ call.upload.fileName.toList) :
    (handleUpload localtime maxUploadSize files call).2 =
      .json 200 (uploadJson fileId call.upload call.mediaType) := by
  have hunique : call.upload.uniqueName.toList = call.upload.prefixName := by
    rw [uniqueName_eq_append, fileExtension_of_no_dot hdot]
    exact List.append_nil _
  have hslash : '/' ∉ call.upload.storedName := by
    intro hmem
    have hprefix := List.takeWhile_subset _ hmem
    rw [hunique] at hprefix
    exact not_mem_prefixName (by decide) (by decide) (by decide) hprefix
  simp [handleUpload, hid, hname, hdata, Nat.not_lt.2 hsize, hslash]

end

/-- A file of one byte, that user 7 uploads -/
def namedBody (name : Bytes) : Bytes :=
  Text.toBytes "--b\r\nContent-Disposition: form-data; name=\"file\"; filename=\"" ++ name ++
    Text.toBytes "\"\r\n\r\n\x01\r\n--b--"

def namedForm (name : Bytes) : Form := ⟨name, [1], 1⟩

def namedCall (name : Bytes) : UploadCall :=
  ⟨(namedForm name).upload 7 1704067200 1704067200000000000, 1, some 1⟩

theorem multipart_namedBody :
    multipart (Text.toBytes "--b") (namedBody (Text.toBytes "ab")) =
        some (.ok (namedForm (Text.toBytes "ab"))) ∧
      multipart (Text.toBytes "--b") (namedBody (Text.toBytes "a\\b")) =
        some (.ok (namedForm (Text.toBytes "a\\b"))) := ⟨rfl, rfl⟩

theorem handleUpload_namedCall (name : Bytes) (hname : (Text.ofBytes name).isEmpty = false)
    (hdot : '.' ∉ (Text.ofBytes name).toList) :
    (handleUpload firstOfJanuary 100 (fun _ => none) (namedCall name)).2 =
      .json 200 (uploadJson 1 (namedCall name).upload 1) :=
  handleUpload_of_no_dot rfl hname rfl (show 1 ≤ 100 by decide) hdot

theorem uploadResponse_ab :
    WellReported (handleUpload firstOfJanuary 100 (fun _ => none)
        (namedCall (Text.toBytes "ab"))).2.body
      (namedCall (Text.toBytes "ab")).upload (Text.toBytes "ab") := by
  have hjson := handleUpload_namedCall (Text.toBytes "ab") (by decide) (by decide)
  exact (uploadResponse_iff multipart_namedBody.1 (congrArg HttpResponse.statusCode hjson)).2
    ⟨['a', 'b'], rfl, Text.forall_of_all rfl⟩

/-- The name "a\b" comes out as an "a" and a backspace. -/
theorem backslash_misreported :
    multipart (Text.toBytes "--b") (namedBody (Text.toBytes "a\\b")) =
        some (.ok (namedForm (Text.toBytes "a\\b"))) ∧
      (handleUpload firstOfJanuary 100 (fun _ => none)
        (namedCall (Text.toBytes "a\\b"))).2.statusCode = 200 ∧
      ¬ WellReported (handleUpload firstOfJanuary 100 (fun _ => none)
          (namedCall (Text.toBytes "a\\b"))).2.body
        (namedCall (Text.toBytes "a\\b")).upload (Text.toBytes "a\\b") := by
  have hjson := handleUpload_namedCall (Text.toBytes "a\\b") (by decide) (by decide)
  refine ⟨multipart_namedBody.2, congrArg HttpResponse.statusCode hjson, fun h => ?_⟩
  rw [hjson, HttpResponse.body_json] at h
  obtain ⟨cs, hcs, hplain⟩ := (wellReported_uploadJson_iff (by decide) rfl).1 h
  have hslash : '\\'.toUInt8 ∈ utf8 cs := by
    rw [hcs]
    decide
  exact (hplain _ (Utf8.mem_of_mem_utf8 (by decide) hslash)).1 rfl

end ChatApp.Media
