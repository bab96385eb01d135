import Mathlib.Data.List.Basic
import ShellInit.Files.Tree
import ShellInit.Proofs.Attempts

/-!
# Writing a file

What is written to a path can be read back from it, and nothing else in the tree is touched: every
other place holds what it held before. The file that is written stands where no directory stood, so
it does not get in the way of any path that led somewhere before.
-/

namespace ShellInit

/-! ## The last name of a path -/

theorem exists_splitOn_concat {α : Type} [DecidableEq α] {separator last : α}
    (h : last ≠ separator) (front : List α) :
    ∃ pieces piece, (front ++ [last]).splitOn separator = pieces ++ [piece ++ [last]] := by
  induction front with
  | nil => exact ⟨[], [], by simp [List.splitOn_cons_eq_if_modifyHead, h]⟩
  | cons first front ih =>
    obtain ⟨pieces, piece, hsplit⟩ := ih
    rw [List.cons_append, List.splitOn_cons_eq_if_modifyHead, hsplit]
    by_cases heq : first = separator
    · exact ⟨[] :: pieces, piece, by simp [heq]⟩
    · cases pieces with
      | nil => exact ⟨[], first :: piece, by simp [heq]⟩
      | cons next pieces => exact ⟨(first :: next) :: pieces, piece, by simp [heq]⟩

/-- A path that does not end in a slash ends in a name. -/
theorem exists_pathNames_eq_concat {path : String} (hempty : path ≠ "")
    (hslash : path.toList.getLast? ≠ some '/') :
    ∃ parents name, pathNames path = parents ++ [name] ∧ name ≠ "" := by
  rcases List.eq_nil_or_concat' path.toList with hnil | ⟨front, last, hconcat⟩
  · exact absurd (String.toList_eq_nil_iff.mp hnil) hempty
  · have hlast : last ≠ '/' := by
      rintro rfl
      simp [hconcat] at hslash
    obtain ⟨pieces, piece, hsplit⟩ := exists_splitOn_concat hlast front
    refine ⟨pieces.map .ofList, .ofList (piece ++ [last]), ?_, ?_⟩
    · rw [pathNames, hconcat, hsplit, List.map_append, List.map_singleton]
    · simp

namespace FileTree

variable {t after : FileTree} {place other : Place} {path : String} {content : ByteArray}

/-! ## Nodes of a changed tree -/

theorem node?_insert_self {node : FileNode} (h : place ≠ []) :
    (t.insert place node).node? place = some node := by
  simp [node?, insert, h]

/-- Elsewhere there is what there was. -/
theorem node?_insert_of_ne {node : FileNode} (h : other ≠ place) :
    (t.insert place node).node? other = t.node? other := by
  have hlookup : (t.nodes.filter (·.1 ≠ place)).lookup other = t.nodes.lookup other := by
    induction t.nodes with
    | nil => rfl
    | cons entry nodes ih =>
      obtain ⟨key, node⟩ := entry
      by_cases hkey : key = place
      · have hother : (other == key) = false := beq_eq_false_iff_ne.mpr (hkey ▸ h)
        rw [List.filter_cons_of_neg (by simpa using hkey), ih, List.lookup_cons, hother]
      · rw [List.filter_cons_of_pos (by simpa using hkey), List.lookup_cons, List.lookup_cons, ih]
  simp only [node?, insert, List.lookup_cons, beq_eq_false_iff_ne.mpr h, hlookup]

/-! ## Paths in a tree with more in it -/

/-- Directories have stayed what they are, and nothing has disappeared. -/
structure Extends (t after : FileTree) : Prop where
  workDirectory : after.workDirectory = t.workDirectory
  directory : ∀ place, t.node? place = some .directory → after.node? place = some .directory
  present : ∀ place, (t.node? place).isSome → (after.node? place).isSome

theorem directory_of_enter {name : String} (h : t.enter place name = .ok other) :
    t.node? place = some .directory := by
  unfold enter at h
  split at h
  case h_4 hnode => exact hnode
  all_goals cases h

/-- Names lead on from a directory as they did. -/
theorem Extends.enter (h : t.Extends after) {name : String}
    (henter : t.enter place name = .ok other) : after.enter place name = .ok other := by
  have hnode := directory_of_enter henter
  simp only [FileTree.enter, hnode] at henter
  simp only [FileTree.enter, h.directory place hnode]
  by_cases hchild : (t.node? (place ++ [name])).isSome
  · rw [if_pos (h.present _ hchild)]
    rwa [if_pos hchild] at henter
  · -- Without an entry of that name, only the names of the directory itself lead on.
    rw [if_neg hchild] at henter
    split_ifs at henter with hhere hdots
    · rwa [if_pos hhere]
    · rwa [if_neg hhere, if_pos hdots]

theorem Extends.foldlM_enter (h : t.Extends after) {parts : List String}
    (hparts : parts.foldlM t.enter place = .ok other) :
    parts.foldlM after.enter place = .ok other := by
  induction parts generalizing place with
  | nil => exact hparts
  | cons part parts ih =>
    rw [List.foldlM_cons, bind_eq_ok_iff] at hparts ⊢
    obtain ⟨next, henter, hrest⟩ := hparts
    exact ⟨next, h.enter henter, ih hrest⟩

theorem Extends.origin_eq (h : t.Extends after) (path : String) :
    after.origin path = t.origin path := by
  rw [origin, origin, h.workDirectory]

/-- A path leads where it led before. -/
theorem Extends.resolve (h : t.Extends after) (hresolve : t.resolve path = .ok place) :
    after.resolve path = .ok place := by
  rw [FileTree.resolve, bind_eq_ok_iff] at hresolve ⊢
  obtain ⟨checked, hcheck, hparts⟩ := hresolve
  rw [h.origin_eq]
  exact ⟨checked, hcheck, h.foldlM_enter hparts⟩

/-! ## The place that is written to -/

/-- The last name of the path stands in a directory that the names before it lead to, and no
directory has that name there. -/
structure NamesFile (t : FileTree) (path : String) (parents : List String) (place : Place)
    (name : String) : Prop where
  checked : checkPath path = .ok ()
  pathNames_eq : pathNames path = parents ++ [name]
  reached : parents.foldlM t.enter (t.origin path) = .ok place
  directory : t.node? place = some .directory
  vacant : t.node? (place ++ [name]) ≠ some .directory
  ne_empty : name ≠ ""
  ne_dot : name ≠ "."
  ne_dots : name ≠ ".."
  short : ¬nameLimit < name.utf8ByteSize

/-- Only a directory can be entered, if only to stay there. -/
theorem eq_of_enter_dot (h : t.enter place "." = .ok other) : other = place := by
  have hplace : place = other := by simpa [enter, directory_of_enter h] using h
  exact hplace.symm

/-- Only a path that names a file leads to a place for writing. -/
theorem exists_namesFile_of_target {target : Place} (h : t.target path = .ok target) :
    ∃ parents place name, target = place ++ [name] ∧ t.NamesFile path parents place name := by
  rw [FileTree.target, bind_eq_ok_iff] at h
  obtain ⟨_, hcheck, h⟩ := h
  have hempty : path ≠ "" := by
    rintro rfl
    simp [checkPath] at hcheck
  by_cases hslash : path.toList.getLast? = some '/'
  · -- A slash at the end names a directory.
    split at h
    · cases h
    · simp only [bind_eq_ok_iff, hslash, true_or, if_true] at h
      obtain ⟨_, _, _, _, h⟩ := h
      cases h
  · obtain ⟨parents, name, hnames, hname⟩ := exists_pathNames_eq_concat hempty hslash
    have hlast : (pathNames path).reverse.dropWhile (· = "") = name :: parents.reverse := by
      simp [hnames, hname]
    simp only [hlast, bind_eq_ok_iff, List.reverse_reverse, hslash, false_or] at h
    obtain ⟨place, hparents, place', hdot, h⟩ := h
    have hdirectory := directory_of_enter hdot
    obtain rfl := eq_of_enter_dot hdot
    split_ifs at h with hdots hlong
    split at h
    · cases h
    · cases h
    · rename_i hvacant _
      obtain rfl : _ = target := Except.ok.inj h
      exact ⟨parents, _, name, rfl, hcheck, hnames, hparents, hdirectory, hvacant, hname,
        fun hdot ↦ hdots (.inl hdot), fun hdot ↦ hdots (.inr hdot), hlong⟩

/-! ## The tree behind it -/

/-- One tree has become another as the file at a place has got this content: the file may be new, or
be run as before, and all else is as it was. -/
structure WrittenAt (t after : FileTree) (place : Place) (content : ByteArray) : Prop where
  vacant : t.node? place ≠ some .directory
  workDirectory : after.workDirectory = t.workDirectory
  node_self : after.node? place = some (.file content (t.mayRun place))
  node_of_ne : ∀ other, other ≠ place → after.node? other = t.node? other

theorem writtenAt_write (hne : place ≠ []) (hvacant : t.node? place ≠ some .directory)
    (content : ByteArray) : t.WrittenAt (t.write place content) place content where
  vacant := hvacant
  workDirectory := rfl
  node_self := node?_insert_self hne
  node_of_ne _ hother := node?_insert_of_ne hother

namespace WrittenAt

/-- No directory is written over, and nothing is removed. -/
theorem tree_extends (h : t.WrittenAt after place content) : t.Extends after where
  workDirectory := h.workDirectory
  directory other hother := by
    have hne : other ≠ place := by
      rintro rfl
      exact h.vacant hother
    rw [h.node_of_ne other hne, hother]
  present other hother := by
    by_cases heq : other = place
    · rw [heq, h.node_self, Option.isSome_some]
    · rw [h.node_of_ne other heq, hother]

/-- The path that names the file leads to it. -/
theorem resolve {parents : List String} {name : String}
    (h : t.WrittenAt after (place ++ [name]) content)
    (hpath : t.NamesFile path parents place name) : after.resolve path = .ok (place ++ [name]) := by
  have hreached := h.tree_extends.foldlM_enter hpath.reached
  have hdirectory := h.tree_extends.directory place hpath.directory
  have henter : after.enter place name = .ok (place ++ [name]) := by
    simp [FileTree.enter, hdirectory, hpath.ne_empty, hpath.ne_dot, hpath.ne_dots, hpath.short,
      h.node_self]
  rw [FileTree.resolve, hpath.checked, hpath.pathNames_eq, h.tree_extends.origin_eq]
  change (parents ++ [name]).foldlM after.enter (t.origin path) = _
  rw [List.foldlM_append, hreached]
  change [name].foldlM after.enter place = _
  rw [List.foldlM_cons, henter]
  rfl

/-- What has been written is read, by any path to it. -/
theorem read (h : t.WrittenAt after place content) (hpath : after.resolve path = .ok place) :
    after.read path = .ok content := by
  have hcontent : after.content place = .ok content := by
    rw [FileTree.content, h.node_self]
  rw [FileTree.read, hpath]
  exact hcontent

/-- A text is read as it was written. -/
theorem readText {text : String} (h : t.WrittenAt after place text.toUTF8)
    (hpath : after.resolve path = .ok place) : after.readText path = .ok text := by
  have hdecoded : String.fromUTF8? text.toUTF8 = some text := by
    simp [String.fromUTF8?, text.isValidUTF8, String.fromUTF8]
  simp only [FileTree.readText, h.read hpath, hdecoded, bind, Except.bind]

/-- A path by which something was read leads to the same, or to what has been written. -/
theorem read_or_resolve (h : t.WrittenAt after place content) {held : ByteArray}
    (hread : t.read path = .ok held) :
    after.read path = .ok held ∨ after.resolve path = .ok place := by
  rw [FileTree.read, bind_eq_ok_iff] at hread
  obtain ⟨place', hplace, hheld⟩ := hread
  have hafter := h.tree_extends.resolve hplace
  by_cases hsame : place' = place
  · exact .inr (hsame ▸ hafter)
  · left
    rw [FileTree.read, hafter]
    change after.content place' = _
    rw [FileTree.content, h.node_of_ne place' hsame]
    exact hheld

end WrittenAt

/-- Writing to the place that a path names changes one file, and the path leads there. -/
theorem writtenAt_of_target (h : t.target path = .ok place) (content : ByteArray) :
    (t.write place content).resolve path = .ok place ∧
      t.WrittenAt (t.write place content) place content := by
  obtain ⟨parents, parent, name, rfl, hpath⟩ := exists_namesFile_of_target h
  have hwritten := writtenAt_write (List.concat_ne_nil name parent) hpath.vacant content
  exact ⟨hwritten.resolve hpath, hwritten⟩

end FileTree

end ShellInit
