/-
  An upload is stored below the directory of its day. The extension begins at the last dot of the
  name that the client chose, and may have slashes behind it; in front of it stand digits, an
  underscore and digits, and a minus sign before 1970. So of the components of the stored name the
  first is not made of dots, and the others have none.
-/
import ChatApp.Media.Downloads

namespace ChatApp.Media

open ChatApp.Lib ChatApp.Session

/-! ## Extensions -/

/-- From the last dot on. -/
theorem fileExtension_of_last {a b : List Char} (hb : '.' ∉ b) :
    Session.fileExtension (.ofList (a ++ '.' :: b)) = .ofList ('.' :: b) := by
  rw [Session.fileExtension, Text.splitOn_dot, String.toList_ofList, List.splitOn_append_cons_self,
    List.splitOn_eq_singleton hb, List.map_append, List.reverse_append]
  obtain ⟨c, cs, hsplit⟩ := List.exists_cons_of_ne_nil (List.splitOn_ne_nil '.' a)
  obtain ⟨d, ds, hrest⟩ := List.exists_cons_of_ne_nil
    (show ((a.splitOn '.').map String.ofList).reverse ≠ [] by simp [hsplit])
  rw [hrest]
  rw [← String.toList_inj]
  simp

theorem fileExtension_of_no_dot {s : String} (h : '.' ∉ s.toList) :
    Session.fileExtension s = "" := by
  rw [Session.fileExtension, Text.splitOn_dot, List.splitOn_eq_singleton h]
  rfl

/-- There is no dot behind the first character of an extension. -/
theorem extension_dots (fileName : String) : (Session.fileExtension fileName).toList = [] ∨
    ∃ rest, (Session.fileExtension fileName).toList = '.' :: rest ∧ '.' ∉ rest := by
  by_cases h : '.' ∈ fileName.toList
  · obtain ⟨a, b, hname, hb⟩ := Text.exists_last h
    have hfile : fileName = .ofList (a ++ '.' :: b) := by
      rw [← hname, String.ofList_toList]
    refine .inr ⟨b, ?_, hb⟩
    rw [hfile, fileExtension_of_last hb, String.toList_ofList]
  · refine .inl ?_
    rw [fileExtension_of_no_dot h]
    rfl

/-! ## Components -/

/-- Neither the directory itself nor the one above. -/
def Plain (n : Name) : Prop := n ≠ ['.'] ∧ n ≠ ['.', '.']

/-- A start without dots and slashes, and at most one dot directly behind it. -/
theorem plain_components {start ext : List Char} (hstart : start ≠ []) (hdot : '.' ∉ start)
    (hslash : '/' ∉ start) (hext : ext = [] ∨ ∃ rest, ext = '.' :: rest ∧ '.' ∉ rest) :
    ∀ n ∈ (start ++ ext).splitOn '/', Plain n := by
  have hplain : ∀ n : Name, '.' ∉ n → Plain n := by
    intro n hn
    constructor
    all_goals
      rintro rfl
      exact hn List.mem_cons_self
  have hfirst : ∀ d : Name, Plain (start ++ d) := by
    intro d
    obtain ⟨c, cs, rfl⟩ := List.exists_cons_of_ne_nil hstart
    have hc : c ≠ '.' := fun heq => hdot (heq ▸ List.mem_cons_self)
    exact ⟨fun h => hc (List.cons.inj h).1, fun h => hc (List.cons.inj h).1⟩
  rw [splitOn_append hslash]
  rcases hext with rfl | ⟨rest, rfl, hrest⟩
  · intro n hn
    obtain rfl := List.mem_singleton.1 hn
    exact hfirst []
  · obtain ⟨d, ds, hsplit⟩ := List.exists_cons_of_ne_nil (List.splitOn_ne_nil '/' rest)
    rw [List.splitOn_cons_eq_if_modifyHead, if_neg (by decide), hsplit]
    intro n hn
    rcases List.mem_cons.1 hn with rfl | hn
    · exact hfirst _
    · -- behind the first slash there are no dots
      have hpiece : n ∈ rest.splitOn '/' := hsplit ▸ List.mem_cons_of_mem d hn
      exact hplain n fun hmem => hrest (Text.mem_of_mem_splitOn hpiece hmem)

/-- What stands in front of the extension. -/
def Upload.prefixName (u : Upload) : List Char :=
  (toString u.userId).toList ++ '_' :: (toString u.timestamp).toList

section
variable {u : Upload}

theorem uniqueName_eq_append :
    u.uniqueName.toList = u.prefixName ++ (Session.fileExtension u.fileName).toList := by
  simp [Upload.uniqueName, Upload.prefixName, Upload.extension, String.toList_append]

theorem mem_prefixName {c : Char} (h : c ∈ u.prefixName) :
    c.isDigit = true ∨ c = '_' ∨ c = '-' := by
  rcases List.mem_append.1 h with h | h
  · exact .inl (Text.isDigit_of_mem_toString h)
  rcases List.mem_cons.1 h with h | h
  · exact .inr (.inl h)
  · exact (Text.mem_toString_int h).imp_right .inr

theorem not_mem_prefixName {c : Char} (hdigit : c.isDigit = false) (hunder : c ≠ '_')
    (hminus : c ≠ '-') : c ∉ u.prefixName := by
  intro h
  rcases mem_prefixName h with h | h | h
  · exact Bool.false_ne_true (hdigit.symm.trans h)
  · exact hunder h
  · exact hminus h

theorem prefixName_ne : u.prefixName ≠ [] :=
  List.append_ne_nil_of_right_ne_nil _ (List.cons_ne_nil _ _)

theorem plain_uniqueName : ∀ n ∈ u.uniqueName.toList.splitOn '/', Plain n := by
  rw [uniqueName_eq_append]
  exact plain_components prefixName_ne (not_mem_prefixName (by decide) (by decide) (by decide))
    (not_mem_prefixName (by decide) (by decide) (by decide)) (extension_dots u.fileName)

/-- `std::ofstream` takes the name up to its first null byte. -/
theorem plain_storedName : ∀ n ∈ u.storedName.splitOn '/', Plain n := by
  have hnull : ∀ c ∈ u.prefixName, decide (c ≠ '\x00') = true := by
    intro c hc
    refine decide_eq_true ?_
    rintro rfl
    exact not_mem_prefixName (by decide) (by decide) (by decide) hc
  have hname : u.storedName =
      u.prefixName ++ cString (Session.fileExtension u.fileName).toList := by
    rw [Upload.storedName, uniqueName_eq_append, cString, List.takeWhile_append_of_pos hnull,
      cString]
  rw [hname]
  refine plain_components prefixName_ne (not_mem_prefixName (by decide) (by decide) (by decide))
    (not_mem_prefixName (by decide) (by decide) (by decide)) ?_
  rcases extension_dots u.fileName with hext | ⟨rest, hext, hrest⟩
  · exact .inl (by rw [hext]; rfl)
  · refine .inr ⟨cString rest, by rw [hext]; rfl, fun hmem => hrest ?_⟩
    exact (List.takeWhile_prefix _).subset hmem

/-- The path of an upload is the directory of its day, a slash and components that are neither "."
    nor ".."; so where they lead, as far as one follows them, is in this directory. -/
theorem stored_confined (localtime : Int → Tm) (mediaDir : String) (u : Upload) :
    storedPath localtime mediaDir u = fullDir localtime mediaDir u ++ "/" ++ u.uniqueName ∧
      (∀ n ∈ u.uniqueName.toList.splitOn '/', Plain n) ∧
      (∀ n ∈ u.storedName.splitOn '/', Plain n) ∧
      ∀ (fs : FileSystem) (day p : List Name) (ns : List Name),
        fs.resolve (fullDir localtime mediaDir u).toList = some day →
        ns <+: u.storedName.splitOn '/' → ns.foldlM fs.walk day = some p → day <+: p := by
  refine ⟨rfl, plain_uniqueName, plain_storedName, fun fs day p ns _ hns hwalk => ?_⟩
  exact FileSystem.prefix_of_walks (fun hmem => (plain_storedName _ (hns.subset hmem)).2 rfl) hwalk

end

end ChatApp.Media
