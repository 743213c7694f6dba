/-
  Bodies that are encoded as multipart/form-data, and what the multipart loop makes of them. The
  name comes from the part that carries one, but the loop assigns `file_data` for every part, so
  the bytes are those of the last part.
-/
import ChatApp.Media.Multipart

namespace ChatApp.Media

open ChatApp.Lib.Search ChatApp.Lib.Text

/-! ## Encoding -/

/-- A boundary is part of a line. -/
structure Boundary where
  bytes : Bytes
  line : 13 ∉ bytes

def Boundary.delimiter (b : Boundary) : Bytes := toBytes "--" ++ b.bytes

/-- The lines of the header, and a content without the delimiter. -/
structure Part (b : Boundary) where
  lines : List Bytes
  content : Bytes
  lines_valid : ∀ line ∈ lines, line ≠ [] ∧ 13 ∉ line
  content_valid : ¬ b.delimiter <:+: content

variable {b : Boundary}

/-- What follows the delimiter of a part. -/
def Part.encode (p : Part b) : Bytes :=
  crlf ++ p.lines.flatMap (· ++ crlf) ++ crlf ++ p.content ++ crlf

/-- The body, which ends with a closing delimiter and whatever follows it. -/
def encodeParts (ps : List (Part b)) (epilogue : Bytes) : Bytes :=
  ps.flatMap (fun p => b.delimiter ++ p.encode) ++ (b.delimiter ++ (toBytes "--" ++ epilogue))

/-- The bytes between the delimiter and the blank line. -/
def Part.header (p : Part b) : Bytes := p.lines.flatMap (crlf ++ ·)

/-- The header has a file name, in quotes. -/
def Part.Carries (p : Part b) (name : Bytes) : Prop :=
  34 ∉ name ∧ ∃ before after,
    cut (toBytes "filename=\"") p.header = some (before, name ++ 34 :: after)

/-- Exactly one part carries a file name. -/
structure FileForm (b : Boundary) where
  before : List (Part b)
  file : Part b
  after : List (Part b)
  name : Bytes
  carries : file.Carries name
  others : ∀ p ∈ before ++ after, ¬ toBytes "filename=\"" <:+: p.header

def FileForm.encode (f : FileForm b) (epilogue : Bytes) : Bytes :=
  encodeParts (f.before ++ f.file :: f.after) epilogue

/-- The loop ends with the name and the content of the file. -/
def Uploads (f : FileForm b) (epilogue : Bytes) : Prop :=
  ∃ form, multipart b.delimiter (f.encode epilogue) = some (.ok form) ∧
    form.fileName = f.name ∧ form.fileData = f.file.content

/-! ## Decoding -/

variable {p : Part b} {ps : List (Part b)} {epilogue rest : Bytes} {form : Form}

/-- What follows a delimiter. -/
def afterDelimiter : List (Part b) → Bytes → Bytes
  | [], epilogue => toBytes "--" ++ epilogue
  | p :: ps, epilogue =>
    p.header ++ (blankLine ++ (p.content ++ crlf ++
      (b.delimiter ++ afterDelimiter ps epilogue)))

theorem lines_eq (lines : List Bytes) :
    crlf ++ lines.flatMap (· ++ crlf) = lines.flatMap (crlf ++ ·) ++ crlf := by
  induction lines with
  | nil => rfl
  | cons line lines ih =>
    rw [List.flatMap_cons, List.flatMap_cons, List.append_assoc (crlf ++ line), ← ih]
    simp only [List.append_assoc]

theorem encodeParts_eq (ps : List (Part b)) (epilogue : Bytes) :
    encodeParts ps epilogue = b.delimiter ++ afterDelimiter ps epilogue := by
  induction ps with
  | nil => rfl
  | cons p ps ih =>
    have hblank : blankLine = crlf ++ crlf := rfl
    have hcons : encodeParts (p :: ps) epilogue =
        b.delimiter ++ (p.encode ++ encodeParts ps epilogue) := by
      simp only [encodeParts, List.flatMap_cons, List.append_assoc]
    rw [hcons, ih, Part.encode, lines_eq, afterDelimiter, Part.header, hblank]
    simp only [List.append_assoc]

/-- The blank line is the one behind the header. -/
theorem cut_header {lines : List Bytes} (h : ∀ line ∈ lines, line ≠ [] ∧ 13 ∉ line) :
    cut blankLine (lines.flatMap (crlf ++ ·) ++ (blankLine ++ rest)) =
      some (lines.flatMap (crlf ++ ·), rest) := by
  induction lines with
  | nil => exact cut_self blankLine rest
  | cons line lines ih =>
    obtain ⟨⟨hne, hline⟩, hlines⟩ := List.forall_mem_cons.1 h
    obtain ⟨c, line, rfl⟩ := List.exists_cons_of_ne_nil hne
    have hc : 13 ≠ c := fun heq => hline (heq ▸ List.mem_cons_self)
    have hcr : ∀ s, ¬ blankLine <+: 13 :: 10 :: c :: s := fun s hprefix => by
      simp only [blankLine, List.cons_prefix_cons] at hprefix
      exact hc hprefix.2.2.1
    have hlf : ∀ s, ¬ blankLine <+: 10 :: s := fun s hprefix => by
      simp [blankLine, List.cons_prefix_cons] at hprefix
    rw [List.flatMap_cons, List.append_assoc, List.append_assoc]
    show cut blankLine (13 :: 10 :: c :: (line ++ _)) = _
    have hskip : ∀ s, cut blankLine (c :: line ++ s) =
        (cut blankLine s).map fun z => (c :: line ++ z.1, z.2) := fun s =>
      cut_skip (t := [10, 13, 10]) hline
    rw [cut_cons (hcr _), cut_cons (hlf _), ← List.cons_append, hskip, ih hlines]
    rfl

/-- The delimiter is the one behind the content. -/
theorem cut_content {content : Bytes} (h : ¬ b.delimiter <:+: content) :
    cut b.delimiter (content ++ crlf ++ (b.delimiter ++ rest)) = some (content ++ crlf, rest) := by
  have hcr : 13 ∉ b.delimiter := fun hmem => by
    rcases List.mem_append.1 hmem with hmem | hmem
    · exact absurd hmem (by decide)
    · exact b.line hmem
  have hhead : ∀ c s, b.delimiter <+: c :: s → c = 45 := fun c s hprefix =>
    (List.cons_prefix_cons.1 hprefix).1.symm
  refine cut_append fun i hi hprefix => ?_
  rw [List.length_append, show crlf.length = 2 from rfl] at hi
  rcases Nat.lt_or_ge i content.length with hlt | hge
  · -- a delimiter that begins in the content lies in it
    rw [List.append_assoc, List.drop_append_of_le_length (Nat.le_of_lt hlt)] at hprefix
    have hinside := prefix_of_not_mem hcr hprefix
    exact h (hinside.isInfix.trans (List.drop_suffix i content).isInfix)
  · obtain ⟨j, rfl⟩ := Nat.exists_eq_add_of_le hge
    rw [List.append_assoc, ← List.drop_drop, List.drop_left] at hprefix
    rcases j with _ | _ | j
    · exact absurd (hhead _ _ hprefix) (by decide)
    · exact absurd (hhead _ _ hprefix) (by decide)
    · omega

/-- An encoded part is one piece. -/
theorem splitPiece_part : splitPiece b.delimiter (afterDelimiter (p :: ps) epilogue) =
    some (p.header, some (p.content ++ crlf, afterDelimiter ps epilogue)) := by
  have hopen : ¬ toBytes "--" <+: afterDelimiter (p :: ps) epilogue := by
    -- a line end follows the delimiter
    have hcr : ∃ s, afterDelimiter (p :: ps) epilogue = 13 :: s := by
      rw [afterDelimiter, Part.header]
      rcases p.lines with _ | ⟨line, lines⟩
      · exact ⟨_, rfl⟩
      · exact ⟨_, rfl⟩
    obtain ⟨s, hs⟩ := hcr
    rw [hs]
    exact fun hprefix => absurd (List.cons_prefix_cons.1 hprefix).1 (by decide)
  unfold splitPiece
  rw [if_neg hopen, afterDelimiter, Part.header, cut_header p.lines_valid, Option.map_some,
    cut_content p.content_valid]

theorem piecesAfter_parts (ps : List (Part b)) (epilogue : Bytes) :
    piecesAfter b.delimiter (afterDelimiter ps epilogue) =
      ps.map fun p => ⟨p.header, some (p.content ++ crlf)⟩ := by
  induction ps with
  | nil =>
    have hclosed : splitPiece b.delimiter (afterDelimiter ([] : List (Part b)) epilogue) = none :=
      if_pos (List.prefix_append _ _)
    rw [piecesAfter, hclosed]
    rfl
  | cons p ps ih =>
    rw [piecesAfter, splitPiece_part, List.map_cons, ← ih]

/-- The pieces of an encoded body are its parts, each with the line end behind its content. -/
theorem pieces_encodeParts (ps : List (Part b)) (epilogue : Bytes) :
    pieces b.delimiter (encodeParts ps epilogue) =
      ps.map fun p => ⟨p.header, some (p.content ++ crlf)⟩ := by
  rw [pieces, encodeParts_eq, cut_self]
  exact piecesAfter_parts ps epilogue

/-! ## Names and contents -/

theorem trimmed_line (content : Bytes) : trimmed (content ++ crlf) = content := by
  rw [trimmed, if_pos (List.suffix_append content crlf), List.length_append]
  exact List.take_left' rfl

theorem readName_nameless {header : Bytes} (h : ¬ toBytes "filename=\"" <:+: header)
    (name : Bytes) : readName header name = .ok name := by
  have hnone : find header (toBytes "filename=\"") 0 = none := by
    rw [← Option.not_isSome_iff_eq_none, find_isSome_iff]
    exact h
  rw [readName, hnone]

theorem readName_carries {name old : Bytes} (h : p.Carries name) :
    readName p.header old = .ok name := by
  obtain ⟨hquote, before, after, hcut⟩ := h
  have hcut' : cut (toBytes "filename=\"") (p.header.drop 0) =
      some (before, name ++ 34 :: after) := hcut
  have hfind := find_of_cut (Nat.zero_le _) hcut'
  have hdrop := drop_of_cut hcut'
  have hle := find_le hfind
  rw [Nat.zero_add] at hfind hdrop hle
  rw [show (toBytes "filename=\"").length = 10 from rfl] at hdrop hle
  have hclose : cut (toBytes "\"") (p.header.drop (before.length + 10)) = some (name, after) := by
    rw [hdrop]
    exact cut_separator hquote
  rw [readName, hfind]
  dsimp only
  rw [find_of_cut hle hclose]
  show substr p.header (before.length + 10) (before.length + 10 + name.length - _) = _
  rw [Nat.add_sub_cancel_left, substr_ok hle, hdrop, List.take_left]

/-- A part is read. -/
theorem readPiece_part (form : Form) (p : Part b) : ∃ name mediaType,
    readName p.header form.fileName = .ok name ∧
      form.readPiece ⟨p.header, some (p.content ++ crlf)⟩ = .ok ⟨name, p.content, mediaType⟩ := by
  obtain ⟨name, mediaType, hname, hheader⟩ := readHeader_ok form p.header
  have hne : p.content ++ crlf ≠ [] := List.append_ne_nil_of_right_ne_nil _ (List.cons_ne_nil _ _)
  refine ⟨name, mediaType, hname, ?_⟩
  rw [Form.readPiece, hheader]
  show (if p.content ++ crlf = [] then _ else _) = _
  rw [if_neg hne, trimmed_line]
  rfl

/-- Parts without a file name leave the name as it is, and the last content is the data. -/
theorem readPieces_nameless (hps : ∀ p ∈ ps, ¬ toBytes "filename=\"" <:+: p.header) (form : Form) :
    ∃ mediaType, (ps.map fun p => (⟨p.header, some (p.content ++ crlf)⟩ : Piece)).foldlM
      Form.readPiece form =
        .ok ⟨form.fileName, (ps.getLast?.map Part.content).getD form.fileData, mediaType⟩ := by
  induction ps generalizing form with
  | nil => exact ⟨form.mediaType, rfl⟩
  | cons p ps ih =>
    obtain ⟨hp, hps⟩ := List.forall_mem_cons.1 hps
    obtain ⟨name, mediaType, hname, hread⟩ := readPiece_part form p
    rw [readName_nameless hp] at hname
    obtain rfl := Except.ok.inj hname
    obtain ⟨mediaType', hrest⟩ := ih hps ⟨form.fileName, p.content, mediaType⟩
    refine ⟨mediaType', ?_⟩
    rw [List.map_cons, List.foldlM_cons, hread]
    show List.foldlM _ _ _ = _
    rw [hrest, List.getLast?_cons]
    cases ps.getLast? <;> rfl

/-! ## The file -/

/-- The content of the last part -/
def FileForm.lastContent (f : FileForm b) : Bytes :=
  ((f.after.getLast?).map Part.content).getD f.file.content

/-- The loop ends with the name of the file and the content of the last part. -/
theorem multipart_encode (f : FileForm b) (epilogue : Bytes) :
    ∃ mediaType, multipart b.delimiter (f.encode epilogue) =
      some (.ok ⟨f.name, f.lastContent, mediaType⟩) := by
  have hbefore : ∀ p ∈ f.before, ¬ toBytes "filename=\"" <:+: p.header := fun p hp =>
    f.others p (List.mem_append_left _ hp)
  have hafter : ∀ p ∈ f.after, ¬ toBytes "filename=\"" <:+: p.header := fun p hp =>
    f.others p (List.mem_append_right _ hp)
  obtain ⟨mediaType, hfirst⟩ := readPieces_nameless hbefore .start
  obtain ⟨name, mediaType', hname, hread⟩ := readPiece_part
    ⟨Form.start.fileName, (f.before.getLast?.map Part.content).getD Form.start.fileData, mediaType⟩
    f.file
  rw [readName_carries f.carries] at hname
  obtain rfl := Except.ok.inj hname
  obtain ⟨mediaType'', hlast⟩ := readPieces_nameless hafter ⟨f.name, f.file.content, mediaType'⟩
  refine ⟨mediaType'', ?_⟩
  rw [multipart_eq, FileForm.encode, pieces_encodeParts, List.map_append, List.map_cons,
    List.foldlM_append, hfirst]
  show some (List.foldlM _ _ _) = _
  rw [List.foldlM_cons, hread]
  show some (List.foldlM _ _ _) = _
  rw [hlast]
  rfl

/-- The file survives exactly if the last part has its content: if it is the last part itself, or
    the last part has the same bytes. -/
theorem uploads_iff (f : FileForm b) (epilogue : Bytes) :
    Uploads f epilogue ↔ f.lastContent = f.file.content := by
  obtain ⟨mediaType, hmultipart⟩ := multipart_encode f epilogue
  unfold Uploads
  rw [hmultipart]
  constructor
  · rintro ⟨form, hform, -, hdata⟩
    obtain rfl := Except.ok.inj (Option.some.inj hform)
    exact hdata
  · exact fun hlast => ⟨_, rfl, rfl, hlast⟩

/-! ## A text field behind the file -/

def fieldBoundary : Boundary := ⟨toBytes "b", by decide⟩

def photoPart : Part fieldBoundary where
  lines := [toBytes "Content-Disposition: form-data; name=\"file\"; filename=\"a.png\"",
    toBytes "Content-Type: image/png"]
  content := [137, 80, 78, 71]
  lines_valid := by decide
  content_valid := by decide

def captionPart : Part fieldBoundary where
  lines := [toBytes "Content-Disposition: form-data; name=\"caption\""]
  content := toBytes "hello"
  lines_valid := by decide
  content_valid := by decide

def captioned : FileForm fieldBoundary where
  before := []
  file := photoPart
  after := [captionPart]
  name := toBytes "a.png"
  carries := ⟨by decide, crlf ++ toBytes "Content-Disposition: form-data; name=\"file\"; ",
    crlf ++ toBytes "Content-Type: image/png", by decide⟩
  others p hp := by
    obtain rfl := List.mem_singleton.1 hp
    decide

/-- The caption is stored as the picture. -/
theorem captioned_overwritten :
    (∃ mediaType, multipart fieldBoundary.delimiter (captioned.encode crlf) =
      some (.ok ⟨toBytes "a.png", toBytes "hello", mediaType⟩)) ∧ ¬ Uploads captioned crlf := by
  obtain ⟨mediaType, hmultipart⟩ := multipart_encode captioned crlf
  refine ⟨⟨mediaType, hmultipart⟩, fun ⟨form, hform, _, hdata⟩ => ?_⟩
  obtain rfl := Except.ok.inj (Option.some.inj (hmultipart.symm.trans hform))
  have hlast : captioned.lastContent ≠ captioned.file.content := by decide
  exact hlast hdata

end ChatApp.Media
