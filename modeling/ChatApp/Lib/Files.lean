/-
  A file system without links: a tree of directories with files at its leaves, and the resolution
  of a path, component by component, from the root or a working directory. Only a component ".."
  leaves the directory that has been reached (`prefix_of_walks`).
-/
import Mathlib.Data.List.Basic

namespace ChatApp.Lib

abbrev Name := List Char

mutual

inductive Node
  | file (content : List UInt8)
  /-- neither a regular file nor a directory -/
  | special
  | directory (entries : Entries)

/-- The entries of a directory in the order in which they are read. -/
inductive Entries
  | nil
  | cons (name : Name) (node : Node) (rest : Entries)

end

def Entries.find? : Entries → Name → Option Node
  | .nil, _ => none
  | .cons m node rest, n => if m = n then some node else rest.find? n

def Node.at? : Node → List Name → Option Node
  | node, [] => some node
  | .directory entries, n :: ns => (entries.find? n).bind (·.at? ns)
  | .file _, _ :: _ => none
  | .special, _ :: _ => none

/-- The entries `.` and `..`, which every directory has, are not in the tree. -/
structure Name.Valid (n : Name) : Prop where
  nonempty : n ≠ []
  here : n ≠ ['.']
  parent : n ≠ ['.', '.']
  component : '/' ∉ n

mutual

def Node.Valid : Node → Prop
  | .directory entries => entries.Valid
  | .file _ => True
  | .special => True

/-- Names are valid and distinct. -/
def Entries.Valid : Entries → Prop
  | .nil => True
  | .cons n node rest => n.Valid ∧ rest.find? n = none ∧ node.Valid ∧ rest.Valid

end

/-- The entries `es` are among the entries `all` of a directory. -/
def Entries.Within (es all : Entries) : Prop :=
  ∀ n node, es.find? n = some node → all.find? n = some node

theorem Entries.Within.head {name : Name} {node : Node} {rest all : Entries}
    (h : (Entries.cons name node rest).Within all) : all.find? name = some node :=
  h name node (if_pos rfl)

theorem Entries.Within.tail {name : Name} {node : Node} {rest all : Entries}
    (h : (Entries.cons name node rest).Within all) (hfresh : rest.find? name = none) :
    rest.Within all := by
  intro n child hn
  refine h n child ((if_neg ?_).trans hn)
  rintro rfl
  exact absurd (hfresh.symm.trans hn).symm (Option.some_ne_none child)

theorem Entries.valid_find? {es : Entries} {name : Name} {node : Node} (hvalid : es.Valid)
    (h : es.find? name = some node) : node.Valid := by
  fun_induction Entries.find? es name with
  | case1 => exact absurd h.symm (Option.some_ne_none node)
  | case2 => exact Option.some.inj h ▸ hvalid.2.2.1
  | case3 _ _ _ _ _ ih => exact ih hvalid.2.2.2 h

theorem Node.valid_at? {node child : Node} {p : List Name} (hvalid : node.Valid)
    (h : node.at? p = some child) : child.Valid := by
  fun_induction Node.at? node p with
  | case1 => exact Option.some.inj h ▸ hvalid
  | case2 entries n ns ih =>
    obtain ⟨below, hbelow, h⟩ := Option.bind_eq_some_iff.1 h
    exact ih below (Entries.valid_find? hvalid hbelow) h
  | case3 => exact absurd h.symm (Option.some_ne_none child)
  | case4 => exact absurd h.symm (Option.some_ne_none child)

structure FileSystem where
  root : Entries
  valid : root.Valid
  /-- the working directory, from the root -/
  cwd : List Name
  /-- `st_size` of a directory -/
  directorySize : Nat

namespace FileSystem

variable (fs : FileSystem)

def node? (p : List Name) : Option Node := (Node.directory fs.root).at? p

/-- One component of a path, from the directory `p`. -/
def walk (p : List Name) (n : Name) : Option (List Name) :=
  match fs.node? p with
  | some (.directory entries) =>
    if n = [] ∨ n = ['.'] then some p
    else if n = ['.', '.'] then some p.dropLast
    else (entries.find? n).map fun _ => p ++ [n]
  | _ => none

def resolve (path : List Char) : Option (List Name) :=
  if path = [] then none
  else (path.splitOn '/').foldlM fs.walk (if path.head? = some '/' then [] else fs.cwd)

def stat (path : List Char) : Option Node := (fs.resolve path).bind fs.node?

variable {fs} {p q : List Name} {n : Name} {entries : Entries} {node : Node}

theorem at?_append (node : Node) (p q : List Name) :
    node.at? (p ++ q) = (node.at? p).bind (·.at? q) := by
  induction p generalizing node with
  | nil => rfl
  | cons m p ih =>
    cases node with
    | directory entries =>
      show (entries.find? m).bind _ = ((entries.find? m).bind _).bind _
      rw [Option.bind_assoc]
      exact congrArg _ (funext fun child => ih child)
    | file content => rfl
    | special => rfl

theorem node?_append (h : fs.node? p = some node) : fs.node? (p ++ q) = node.at? q := by
  rw [node?, at?_append, ← node?, h]
  rfl

theorem node?_snoc (h : fs.node? p = some (.directory entries)) :
    fs.node? (p ++ [n]) = entries.find? n := by
  rw [node?_append h]
  show (entries.find? n).bind (·.at? []) = _
  cases entries.find? n <;> rfl

theorem valid_node? (h : fs.node? p = some node) : node.Valid := by
  have hroot : (Node.directory fs.root).Valid := fs.valid
  exact Node.valid_at? hroot h

/-! ## Walks -/

theorem walk_child (hp : fs.node? p = some (.directory entries)) (hn : n.Valid)
    (h : entries.find? n = some node) : fs.walk p n = some (p ++ [n]) := by
  simp [walk, hp, hn.nonempty, hn.here, hn.parent, h]

theorem prefix_of_walk (hn : n ≠ ['.', '.']) (h : fs.walk p n = some q) : p <+: q := by
  simp only [walk, if_neg hn] at h
  split at h
  · split at h
    · exact Option.some.inj h ▸ List.prefix_refl p
    · obtain ⟨-, -, rfl⟩ := Option.map_eq_some_iff.1 h
      exact List.prefix_append p [n]
  · exact absurd h.symm (Option.some_ne_none q)

/-- Only `..` leaves a directory. -/
theorem prefix_of_walks {ns : List Name} (hns : ['.', '.'] ∉ ns)
    (h : ns.foldlM fs.walk p = some q) : p <+: q := by
  induction ns generalizing p with
  | nil => exact Option.some.inj h ▸ List.prefix_refl p
  | cons n ns ih =>
    rw [List.foldlM_cons] at h
    obtain ⟨r, hr, h⟩ := Option.bind_eq_some_iff.1 h
    have hn : n ≠ ['.', '.'] := fun heq => hns (heq ▸ List.mem_cons_self)
    exact (prefix_of_walk hn hr).trans (ih (fun hmem => hns (List.mem_cons_of_mem n hmem)) h)

theorem resolve_append {dir rest : List Char} (hd : dir ≠ []) :
    fs.resolve (dir ++ '/' :: rest) =
      (fs.resolve dir).bind ((rest.splitOn '/').foldlM fs.walk) := by
  have hhead : (dir ++ '/' :: rest).head? = dir.head? := by
    cases dir with
    | nil => exact absurd rfl hd
    | cons c cs => rfl
  rw [resolve, resolve, if_neg (List.append_ne_nil_of_left_ne_nil hd _), if_neg hd,
    List.splitOn_append_cons_self, List.foldlM_append, hhead]
  rfl

theorem resolve_child {dir : List Char} (hdir : fs.resolve dir = some p)
    (hp : fs.node? p = some (.directory entries)) (hn : n.Valid)
    (h : entries.find? n = some node) : fs.resolve (dir ++ '/' :: n) = some (p ++ [n]) := by
  have hd : dir ≠ [] := by
    rintro rfl
    exact absurd hdir.symm (Option.some_ne_none p)
  rw [resolve_append hd, hdir, List.splitOn_eq_singleton hn.component]
  show (fs.walk p n).bind (fun q => some q) = _
  rw [walk_child hp hn h]
  rfl

theorem stat_eq_some {path : List Char} :
    fs.stat path = some node ↔ ∃ p, fs.resolve path = some p ∧ fs.node? p = some node :=
  Option.bind_eq_some_iff

end FileSystem

end ChatApp.Lib
