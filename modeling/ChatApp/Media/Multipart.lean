/-
  The multipart loop of `HttpGateway::handle_upload`, on the bytes of the body. `multipart` follows
  the positions as the code computes them, with the faults that a wrong position leads to. `pieces`
  divides the body at the delimiters and the blank lines, without positions; what the loop does is
  what is read piece by piece (`multipart_eq`).
-/
import ChatApp.Lib.Search
import ChatApp.Lib.Text

namespace ChatApp.Media

open ChatApp.Lib.Search ChatApp.Lib.Text

abbrev Bytes := List UInt8

def crlf : Bytes := [13, 10]

/-- The end of a header -/
def blankLine : Bytes := [13, 10, 13, 10]

/-! ## Faults -/

inductive Fault
  /-- `substr` begins behind the end: `std::out_of_range` -/
  | position
  /-- a vector of a range that does not lie in the body, or ends before it begins:
      `std::length_error` -/
  | range
  /-- `std::stoi`: `std::invalid_argument` or `std::out_of_range` -/
  | number
  deriving DecidableEq

/-- `std::string::substr` -/
def substr (s : Bytes) (pos len : Nat) : Except Fault Bytes :=
  if pos ≤ s.length then .ok ((s.drop pos).take len) else .error .position

/-- `s.substr(start, stop - start)`, where `stop` may be `npos` -/
def substrTo (s : Bytes) (start : Nat) : Option Nat → Except Fault Bytes
  | some stop => substr s start (stop - start)
  | none => substr s start s.length

/-- `std::vector<uint8_t>(begin() + start, begin() + stop)` -/
def copyRange (s : Bytes) (start stop : Nat) : Except Fault Bytes :=
  if start ≤ stop ∧ stop ≤ s.length then .ok ((s.drop start).take (stop - start))
  else .error .range

/-! ## The loop -/

/-- The variables of `handle_upload` that the loop assigns -/
structure Form where
  fileName : Bytes
  fileData : Bytes
  mediaType : Int
  deriving DecidableEq

def Form.start : Form := ⟨[], [], 1⟩

def readName (header name : Bytes) : Except Fault Bytes :=
  match find header (toBytes "filename=\"") 0 with
  | some namePos => substrTo header (namePos + 10) (find header (toBytes "\"") (namePos + 10))
  | none => .ok name

def readMediaType (header : Bytes) (mediaType : Int) : Except Fault Int :=
  match find header (toBytes "Content-Type: ") 0 with
  | some ctPos => do
    let fileCt ← substrTo header (ctPos + 14) (find header crlf (ctPos + 14))
    return if find fileCt (toBytes "image/") 0 = some 0 then 1 else 2
  | none => .ok mediaType

def Form.readHeader (form : Form) (header : Bytes) : Except Fault Form := do
  let fileName ← readName header form.fileName
  let mediaType ← readMediaType header form.mediaType
  return ⟨fileName, form.fileData, mediaType⟩

/-- A line end in front of the delimiter is left out. -/
def trimEnd (body : Bytes) (dataEnd : Nat) : Nat :=
  if 2 ≤ dataEnd ∧ body[dataEnd - 2]? = some 13 ∧ body[dataEnd - 1]? = some 10 then dataEnd - 2
  else dataEnd

/-- One iteration: the variables after it, and the position, unless the loop ends. -/
def readPart (boundary body : Bytes) (pos : Nat) (form : Form) :
    Except Fault (Form × Option Nat) :=
  match find body boundary pos with
  | none => .ok (form, none)
  | some pos => do
    let partStart := pos + boundary.length
    if (← substr body partStart 2) = toBytes "--" then return (form, none)
    match find body blankLine partStart with
    | none => return (form, none)
    | some headerEnd => do
      let form ← form.readHeader (← substr body partStart (headerEnd - partStart))
      let dataStart := headerEnd + 4
      match find body boundary dataStart with
      -- `pos` is `npos`, where nothing is found
      | none => return (form, none)
      | some dataEnd => do
        let dataEnd := trimEnd body dataEnd
        let fileData ← copyRange body dataStart dataEnd
        return ({ form with fileData := fileData }, some dataEnd)

/-- The loop, for so many iterations at most. -/
def multipartLoop (boundary body : Bytes) : Nat → Nat → Form → Option (Except Fault Form)
  | 0, _, _ => none
  | fuel + 1, pos, form =>
    match readPart boundary body pos form with
    | .error e => some (.error e)
    | .ok (form, none) => some (.ok form)
    | .ok (form, some pos) => multipartLoop boundary body fuel pos form

def multipart (boundary body : Bytes) : Option (Except Fault Form) :=
  multipartLoop boundary body (body.length + 1) 0 .start

/-! ## Pieces -/

/-- What follows a delimiter: a header, and what comes up to the next delimiter, if there is
    one. -/
structure Piece where
  header : Bytes
  content : Option Bytes

/-- The header behind a delimiter, and behind the blank line the content with what follows the next
    delimiter. -/
def splitPiece (boundary s : Bytes) : Option (Bytes × Option (Bytes × Bytes)) :=
  if toBytes "--" <+: s then none
  else (cut blankLine s).map fun x => (x.1, cut boundary x.2)

theorem length_splitPiece {boundary s header content rest : Bytes}
    (h : splitPiece boundary s = some (header, some (content, rest))) :
    rest.length < s.length := by
  unfold splitPiece at h
  split at h
  next => exact nomatch h
  next =>
    obtain ⟨⟨before, after⟩, hblank, heq⟩ := Option.map_eq_some_iff.1 h
    obtain ⟨rfl, hcontent⟩ := Prod.mk.inj heq
    have hs := congrArg List.length (cut_eq_some hblank).1
    have hafter := congrArg List.length (cut_eq_some hcontent).1
    simp only [List.length_append, blankLine, List.length_cons] at hs hafter
    omega

/-- The pieces of what follows a delimiter. -/
def piecesAfter (boundary s : Bytes) : List Piece :=
  match _h : splitPiece boundary s with
  | none => []
  | some (header, none) => [⟨header, none⟩]
  | some (header, some (content, rest)) => ⟨header, some content⟩ :: piecesAfter boundary rest
termination_by s.length
decreasing_by exact length_splitPiece _h

def pieces (boundary body : Bytes) : List Piece :=
  match cut boundary body with
  | none => []
  | some (_, rest) => piecesAfter boundary rest

/-- Without the line end. -/
def trimmed (content : Bytes) : Bytes :=
  if crlf <:+ content then content.take (content.length - 2) else content

/-- The variables after a piece. An empty content is a fault, as its end lies before its begin
    without the line end of the blank line. -/
def Form.readPiece (form : Form) : Piece → Except Fault Form
  | ⟨header, none⟩ => form.readHeader header
  | ⟨header, some content⟩ => do
    let form ← form.readHeader header
    if content = [] then .error .range else return { form with fileData := trimmed content }

variable {boundary body s header content after rest x : Bytes} {pos start : Nat} {form : Form}

/-! ## What a piece looks like in the body -/

theorem substr_ok {len : Nat} (h : pos ≤ s.length) :
    substr s pos len = .ok ((s.drop pos).take len) := if_pos h

/-- What follows the first occurrence, up to the end. -/
theorem substr_of_cut {t before : Bytes} (h : cut t s = some (before, rest)) :
    find s t 0 = some before.length ∧ substr s (before.length + t.length) s.length = .ok rest := by
  have hcut : cut t (s.drop 0) = some (before, rest) := h
  have hfind := find_of_cut (Nat.zero_le _) hcut
  have hdrop := drop_of_cut hcut
  have hlength := length_of_cut hcut
  rw [Nat.zero_add] at hfind hdrop
  refine ⟨hfind, ?_⟩
  rw [substr_ok (find_le hfind), hdrop, List.take_of_length_le (by omega)]

theorem crlf_suffix_iff {t : Bytes} : crlf <:+ t ↔
    2 ≤ t.length ∧ t[t.length - 2]? = some 13 ∧ t[t.length - 1]? = some 10 := by
  constructor
  · rintro ⟨d, rfl⟩
    simp [crlf]
  · rintro ⟨hlength, hcr, hlf⟩
    refine List.suffix_iff_eq_drop.2 (List.ext_getElem? fun i => ?_)
    rw [List.getElem?_drop]
    have hsize : crlf.length = 2 := rfl
    rcases i with _ | _ | i
    · rw [hsize, Nat.add_zero, hcr]
      rfl
    · have hlast : t.length - crlf.length + (0 + 1) = t.length - 1 := by omega
      rw [hlast, hlf]
      rfl
    · rw [List.getElem?_eq_none (by omega), List.getElem?_eq_none (by omega)]

theorem trimmed_append (c : Bytes) : ∃ z, c = trimmed c ++ z := by
  unfold trimmed
  split
  next => exact ⟨c.drop (c.length - 2), (List.take_append_drop _ _).symm⟩
  next => exact ⟨[], (List.append_nil c).symm⟩

/-- The content begins at `start`, behind a blank line. -/
theorem trimEnd_eq (hblank : body[start - 2]? = some 13 ∧ body[start - 1]? = some 10)
    (hstart : 4 ≤ start) (hcontent : body.drop start = content ++ after) :
    trimEnd body (start + content.length) =
      if content = [] then start - 2 else start + (trimmed content).length := by
  have hat : ∀ i < content.length, body[start + i]? = content[i]? := by
    intro i hi
    rw [← List.getElem?_drop, hcontent, List.getElem?_append_left hi]
  unfold trimEnd
  rcases hlength : content.length with _ | _ | n
  · obtain rfl := List.length_eq_zero_iff.1 hlength
    rw [if_pos ⟨by omega, hblank⟩, if_pos rfl, Nat.add_zero]
  · have hne : content ≠ [] := List.ne_nil_of_length_eq_add_one hlength
    have htrim : trimmed content = content := if_neg fun h => by
      have := (crlf_suffix_iff.1 h).1
      omega
    have hlast : start + (0 + 1) - 2 = start - 1 := by omega
    rw [if_neg hne, htrim, hlength, if_neg]
    rw [hlast, hblank.2]
    simp
  · have hne : content ≠ [] := List.ne_nil_of_length_eq_add_one hlength
    have hcr : start + (n + 1 + 1) - 2 = start + (content.length - 2) := by omega
    have hlf : start + (n + 1 + 1) - 1 = start + (content.length - 1) := by omega
    rw [if_neg hne, hcr, hlf, hat _ (by omega), hat _ (by omega)]
    unfold trimmed
    by_cases htrim : crlf <:+ content
    · rw [if_pos htrim, if_pos ⟨by omega, (crlf_suffix_iff.1 htrim).2⟩, List.length_take]
      omega
    · rw [if_neg htrim, if_neg fun h => htrim (crlf_suffix_iff.2 ⟨by omega, h.2⟩), hlength]

theorem copyRange_trimmed (hcontent : body.drop start = content ++ after)
    (hstart : start ≤ body.length) :
    copyRange body start (start + (trimmed content).length) = .ok (trimmed content) := by
  obtain ⟨z, hz⟩ := trimmed_append content
  generalize trimmed content = w at hz ⊢
  subst hz
  have hlength := congrArg List.length hcontent
  simp only [List.length_drop, List.length_append] at hlength
  unfold copyRange
  rw [if_pos ⟨by omega, by omega⟩, hcontent, Nat.add_sub_cancel_left, List.append_assoc,
    List.take_left]

/-! ## One iteration -/

theorem readPart_none (h : cut boundary (body.drop pos) = none) :
    readPart boundary body pos form = .ok (form, none) := by
  unfold readPart
  rw [find_of_cut_none h]

/-- The bytes in front of a content -/
theorem blankLine_before (h : cut blankLine (body.drop pos) = some (header, rest)) :
    body[pos + header.length + 4 - 2]? = some 13 ∧
      body[pos + header.length + 4 - 1]? = some 10 := by
  have hdrop : body.drop (pos + header.length) = blankLine ++ rest := by
    rw [← List.drop_drop, (cut_eq_some h).1, List.append_assoc, List.drop_left]
  have hcr : body[pos + header.length + 2]? = some 13 := by
    rw [← List.getElem?_drop, hdrop]
    rfl
  have hlf : body[pos + header.length + 3]? = some 10 := by
    rw [← List.getElem?_drop, hdrop]
    rfl
  exact ⟨hcr, hlf⟩

/-- The content up to the next delimiter, as it is copied -/
theorem copyRange_content (hpos : pos ≤ body.length)
    (hblank : cut blankLine (body.drop pos) = some (header, rest))
    (hcontent : cut boundary rest = some (content, after)) :
    find body boundary (pos + header.length + 4) = some (pos + header.length + 4 + content.length) ∧
      copyRange body (pos + header.length + 4)
          (trimEnd body (pos + header.length + 4 + content.length)) =
        (if content = [] then .error .range else .ok (trimmed content)) ∧
      (content ≠ [] → trimEnd body (pos + header.length + 4 + content.length) =
        pos + header.length + 4 + (trimmed content).length) := by
  have hlength := length_of_cut hblank
  have hsize : blankLine.length = 4 := rfl
  have hdrop : body.drop (pos + header.length + 4) = rest := drop_of_cut hblank
  have hstart : pos + header.length + 4 ≤ body.length := by omega
  have hparts : body.drop (pos + header.length + 4) = content ++ (boundary ++ after) := by
    rw [hdrop, (cut_eq_some hcontent).1, List.append_assoc]
  have htrim := trimEnd_eq (blankLine_before hblank) (by omega) hparts
  refine ⟨find_of_cut hstart (by rwa [hdrop]), ?_, fun hne => by rw [htrim, if_neg hne]⟩
  rw [htrim]
  by_cases hnil : content = []
  · rw [if_pos hnil, if_pos hnil]
    exact if_neg fun h => by omega
  · rw [if_neg hnil, if_neg hnil]
    exact copyRange_trimmed hparts hstart

/-- An iteration behind a delimiter reads a piece. -/
theorem readPart_some (hpos : pos ≤ body.length) (h : cut boundary (body.drop pos) = some (x, s)) :
    readPart boundary body pos form = match splitPiece boundary s with
      | none => .ok (form, none)
      | some (header, none) => (form.readPiece ⟨header, none⟩).map fun form => (form, none)
      | some (header, some (content, _)) =>
        (form.readPiece ⟨header, some content⟩).map fun form =>
          (form, some (pos + x.length + boundary.length + header.length + 4 +
            (trimmed content).length)) := by
  have hlength := length_of_cut h
  have hstart : pos + x.length + boundary.length ≤ body.length := by omega
  have hs := drop_of_cut h
  unfold readPart splitPiece
  rw [find_of_cut hpos h]
  dsimp only
  generalize pos + x.length + boundary.length = partStart at hstart hs ⊢
  rw [substr_ok hstart, hs]
  have hclose : s.take 2 = toBytes "--" ↔ toBytes "--" <+: s :=
    eq_comm.trans List.prefix_iff_eq_take.symm
  show (if s.take 2 = toBytes "--" then _ else _) = _
  by_cases hend : toBytes "--" <+: s
  · rw [if_pos (hclose.2 hend), if_pos hend]
    rfl
  · rw [if_neg (mt hclose.1 hend), if_neg hend]
    rcases hblank : cut blankLine s with _ | ⟨header, rest⟩
    · rw [find_of_cut_none (by rwa [hs])]
      rfl
    · have hcut : cut blankLine (body.drop partStart) = some (header, rest) := by rwa [hs]
      have htake : s.take header.length = header := by
        rw [(cut_eq_some hblank).1, List.append_assoc, List.take_left]
      rw [find_of_cut hstart hcut]
      dsimp only
      rw [Nat.add_sub_cancel_left, substr_ok hstart, hs, htake]
      show (form.readHeader header >>= _) = _
      rcases hcontent : cut boundary rest with _ | ⟨content, after⟩
      · have hdrop : body.drop (partStart + header.length + 4) = rest := drop_of_cut hcut
        rw [find_of_cut_none (by rwa [hdrop]), Option.map_some, hcontent]
        rfl
      · obtain ⟨hfind, hcopy, htrim⟩ := copyRange_content hstart hcut hcontent
        rw [hfind, Option.map_some, hcontent]
        dsimp only [Form.readPiece]
        rw [hcopy]
        rcases form.readHeader header with e | form'
        · rfl
        · by_cases hnil : content = []
          · simp only [hnil, if_true]
            rfl
          · simp only [hnil, if_false, htrim hnil]
            rfl

/-- Where an iteration goes on, the next delimiter is the one behind the content. -/
theorem cut_next (h : cut boundary (body.drop pos) = some (x, s))
    (hpiece : splitPiece boundary s = some (header, some (content, rest))) :
    pos + x.length + boundary.length + header.length + 4 + (trimmed content).length ≤ body.length ∧
      ∃ z, cut boundary (body.drop (pos + x.length + boundary.length + header.length + 4 +
        (trimmed content).length)) = some (z, rest) := by
  unfold splitPiece at hpiece
  obtain ⟨-, hpiece⟩ := Option.ite_none_left_eq_some.1 hpiece
  obtain ⟨⟨header', after⟩, hblank, heq⟩ := Option.map_eq_some_iff.1 hpiece
  obtain rfl : header' = header := (Prod.mk.inj heq).1
  have hcontent : cut boundary after = some (content, rest) := (Prod.mk.inj heq).2
  have hcut : cut blankLine (body.drop (pos + x.length + boundary.length)) =
      some (header', after) := by
    rwa [drop_of_cut h]
  have hdrop : body.drop (pos + x.length + boundary.length + header'.length + 4) = after :=
    drop_of_cut hcut
  obtain ⟨z, hz⟩ := trimmed_append content
  constructor
  · have hsize : blankLine.length = 4 := rfl
    have hlength := length_of_cut h
    have hrest := congrArg List.length (cut_eq_some hblank).1
    have hafter := congrArg List.length (cut_eq_some hcontent).1
    have htrim := congrArg List.length hz
    simp only [List.length_append] at hrest hafter htrim
    omega
  · refine ⟨z, ?_⟩
    rw [← List.drop_drop, hdrop]
    exact cut_drop (hz ▸ hcontent)

theorem multipartLoop_eq {fuel : Nat} (hpos : pos ≤ body.length)
    (hfuel : body.length < fuel + pos) :
    multipartLoop boundary body fuel pos form = some
      ((match cut boundary (body.drop pos) with
        | none => []
        | some (_, s) => piecesAfter boundary s).foldlM Form.readPiece form) := by
  induction fuel generalizing pos form with
  | zero => omega
  | succ fuel ih =>
    rw [multipartLoop]
    rcases hcut : cut boundary (body.drop pos) with _ | ⟨x, s⟩
    · rw [readPart_none hcut]
      rfl
    · rw [readPart_some hpos hcut]
      dsimp only
      rw [piecesAfter]
      rcases hpiece : splitPiece boundary s with _ | ⟨header, _ | ⟨content, rest⟩⟩
      · rfl
      · dsimp only
        rw [List.foldlM_cons]
        rcases form.readPiece ⟨header, none⟩ with e | form' <;> rfl
      · dsimp only
        rw [List.foldlM_cons]
        obtain ⟨hnext, z, hz⟩ := cut_next hcut hpiece
        rcases form.readPiece ⟨header, some content⟩ with e | form'
        · rfl
        · show multipartLoop boundary body fuel _ form' = _
          rw [ih hnext (by omega), hz]
          rfl

/-- The loop ends, and reads the body piece by piece. -/
theorem multipart_eq (boundary body : Bytes) :
    multipart boundary body = some ((pieces boundary body).foldlM Form.readPiece .start) := by
  unfold multipart
  rw [multipartLoop_eq (Nat.zero_le _) (by omega), List.drop_zero]
  rfl

/-! ## Headers -/

theorem substrTo_ok {start : Nat} (h : start ≤ s.length) (stop : Option Nat) :
    ∃ t, substrTo s start stop = .ok t := by
  cases stop with
  | none => exact ⟨_, substr_ok h⟩
  | some stop => exact ⟨_, substr_ok h⟩

theorem readName_ok (header name : Bytes) : ∃ t, readName header name = .ok t := by
  unfold readName
  split
  next namePos hfind => exact substrTo_ok (find_le hfind) _
  next => exact ⟨name, rfl⟩

theorem readMediaType_ok (header : Bytes) (mediaType : Int) :
    ∃ i, readMediaType header mediaType = .ok i := by
  unfold readMediaType
  split
  next ctPos hfind =>
    obtain ⟨fileCt, hfileCt⟩ := substrTo_ok (find_le hfind) (find header crlf (ctPos + 14))
    exact ⟨_, by rw [show substrTo header (ctPos + 14) _ = _ from hfileCt]; rfl⟩
  next => exact ⟨mediaType, rfl⟩

/-- A header is read without a fault. -/
theorem readHeader_ok (form : Form) (header : Bytes) :
    ∃ name mediaType, readName header form.fileName = .ok name ∧
      form.readHeader header = .ok ⟨name, form.fileData, mediaType⟩ := by
  obtain ⟨name, hname⟩ := readName_ok header form.fileName
  obtain ⟨mediaType, hmediaType⟩ := readMediaType_ok header form.mediaType
  refine ⟨name, mediaType, hname, ?_⟩
  rw [Form.readHeader, hname, hmediaType]
  rfl

theorem readPiece_ok_iff (form : Form) {p : Piece} :
    (∃ form', form.readPiece p = .ok form') ↔ p.content ≠ some [] := by
  obtain ⟨header, content⟩ := p
  obtain ⟨name, mediaType, -, hheader⟩ := readHeader_ok form header
  rcases content with _ | content
  · exact ⟨fun _ => nofun, fun _ => ⟨_, hheader⟩⟩
  · have hread : form.readPiece ⟨header, some content⟩ =
        if content = [] then .error .range else .ok ⟨name, trimmed content, mediaType⟩ := by
      rw [Form.readPiece, hheader]
      rfl
    rw [hread]
    by_cases hnil : content = []
    · simp [hnil]
    · simp [hnil]

/-- The pieces are read without a fault if no content is empty. -/
theorem readPieces_ok_iff (form : Form) {ps : List Piece} :
    (∃ form', ps.foldlM Form.readPiece form = .ok form') ↔ ∀ p ∈ ps, p.content ≠ some [] := by
  induction ps generalizing form with
  | nil => exact ⟨fun _ => nofun, fun _ => ⟨form, rfl⟩⟩
  | cons p ps ih =>
    rw [List.foldlM_cons, List.forall_mem_cons, ← readPiece_ok_iff form]
    rcases form.readPiece p with e | form'
    · exact ⟨fun ⟨_, h⟩ => (nomatch h), fun ⟨⟨_, h⟩, _⟩ => (nomatch h)⟩
    · rw [← ih form']
      exact ⟨fun h => ⟨⟨form', rfl⟩, h⟩, fun h => h.2⟩

/-! ## Names -/

/-- A name ends before the next quote. -/
theorem readName_quote {name old : Bytes} (hold : 34 ∉ old) (h : readName header old = .ok name) :
    34 ∉ name := by
  unfold readName at h
  split at h
  next namePos hfind =>
    have hle : namePos + 10 ≤ header.length := find_le hfind
    rcases hcut : cut (toBytes "\"") (header.drop (namePos + 10)) with _ | ⟨x, y⟩
    · rw [find_of_cut_none hcut] at h
      have hname := Except.ok.inj ((substr_ok hle).symm.trans h)
      exact fun hmem => not_mem_of_cut_none hcut (List.mem_of_mem_take (hname ▸ hmem))
    · rw [find_of_cut hle hcut] at h
      have hname := Except.ok.inj ((substr_ok hle).symm.trans h)
      rw [Nat.add_sub_cancel_left, (cut_eq_some hcut).1, List.append_assoc, List.take_left] at hname
      exact hname ▸ not_mem_of_cut hcut
  next => exact Except.ok.inj h ▸ hold

theorem readPiece_quote {p : Piece} {form' : Form} (hform : 34 ∉ form.fileName)
    (h : form.readPiece p = .ok form') : 34 ∉ form'.fileName := by
  obtain ⟨header, content⟩ := p
  obtain ⟨name, mediaType, hname, hheader⟩ := readHeader_ok form header
  have hquote := readName_quote hform hname
  rcases content with _ | content
  · obtain rfl := Except.ok.inj (hheader.symm.trans h)
    exact hquote
  · rw [Form.readPiece, hheader] at h
    change (if content = [] then _ else _) = _ at h
    split at h
    next => exact nomatch h
    next =>
      obtain rfl := Except.ok.inj h
      exact hquote

theorem readPieces_quote {ps : List Piece} {form' : Form} (hform : 34 ∉ form.fileName)
    (h : ps.foldlM Form.readPiece form = .ok form') : 34 ∉ form'.fileName := by
  induction ps generalizing form with
  | nil => exact Except.ok.inj h ▸ hform
  | cons p ps ih =>
    rw [List.foldlM_cons] at h
    rcases hread : form.readPiece p with e | next
    · rw [hread] at h
      exact nomatch h
    · rw [hread] at h
      exact ih (readPiece_quote hform hread) h

/-- No name that is extracted has a quote. -/
theorem multipart_quote (h : multipart boundary body = some (.ok form)) : 34 ∉ form.fileName := by
  rw [multipart_eq] at h
  exact readPieces_quote List.not_mem_nil (Option.some.inj h)

end ChatApp.Media
