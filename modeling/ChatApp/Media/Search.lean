/-
  What `handle_download` answers over any directory tree. The search goes through the entries in
  the order of `readdir`, and into each directory when it comes to it; it ends because the tree is
  finite. An entry that is found lies below `media_dir`.
-/
import ChatApp.Media.Downloads

namespace ChatApp.Media

open ChatApp.Lib

/-- An entry of this base name, below a directory, that is no directory. -/
structure IsEntry (entries : Entries) (name : Name) (rel : List Name) (node : Node) : Prop where
  found : (Node.directory entries).at? rel = some node
  leaf : ∀ sub, node ≠ .directory sub
  named : rel.getLast? = some name

def HasEntry (entries : Entries) (name : Name) : Prop := ∃ rel node, IsEntry entries name rel node

section
variable {fs : FileSystem} {mediaDir path : List Char} {m : List Name} {entries : Entries}

/-- The search is sound and complete. -/
theorem searchFile_ne_iff (hm : fs.resolve mediaDir = some m)
    (hnode : fs.node? m = some (.directory entries)) {name : Name} :
    searchFile fs mediaDir name ≠ [] ↔ HasEntry entries name := by
  rw [searchFile_eq hm hnode]
  constructor
  · intro h
    obtain ⟨rel, node, -, hat, hleaf, hlast⟩ :=
      searchFileInDir_found hm hnode (fun _ _ h => h) (FileSystem.valid_node? hnode) h
    exact ⟨rel, node, hat, hleaf, hlast⟩
  · rintro ⟨rel, node, hentry⟩ hmissing
    exact searchFileInDir_missing hmissing hentry.found hentry.leaf hentry.named

/-- The status of an answer without a file says what was missing. -/
theorem handleDownload_status :
    ((handleDownload fs mediaDir path).statusCode = 400 ↔ urlFilename path = []) ∧
    ((handleDownload fs mediaDir path).statusCode = 404 ↔
      urlFilename path ≠ [] ∧ searchFile fs mediaDir (urlFilename path) = []) := by
  unfold handleDownload
  dsimp only
  split
  next hname =>
    exact ⟨iff_of_true rfl hname,
      iff_of_false (fun h => absurd (show 400 = 404 from h) (by decide)) fun h => h.1 hname⟩
  next hname =>
    split
    next hmissing =>
      exact ⟨iff_of_false (fun h => absurd (show 404 = 400 from h) (by decide)) hname,
        iff_of_true rfl ⟨hname, hmissing⟩⟩
    next hfound =>
      split
      next =>
        exact ⟨iff_of_false (fun h => absurd (show 200 = 400 from h) (by decide)) hname,
          iff_of_false (fun h => absurd (show 200 = 404 from h) (by decide)) fun h => hfound h.2⟩
      next =>
        exact ⟨iff_of_false (fun h => absurd (show 500 = 400 from h) (by decide)) hname,
          iff_of_false (fun h => absurd (show 500 = 404 from h) (by decide)) fun h => hfound h.2⟩

end

/-! ## A path without a name -/

/-- The content of /srv/media -/
def hostMedia : Entries := .cons "cat.png".toList (.file [2]) .nil

theorem hostMedia_resolves :
    hostFiles.resolve "media".toList = some ["srv".toList, "media".toList] ∧
      hostFiles.node? ["srv".toList, "media".toList] = some (.directory hostMedia) :=
  ⟨by decide +kernel, rfl⟩

end ChatApp.Media
