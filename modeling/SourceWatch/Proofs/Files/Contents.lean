import SourceWatch.Proofs.Files.Walk

/-!
# Files with other contents

When files get other contents and nothing else in a tree changes, every path leads where it led before.  So a path
has a place: whatever becomes of the contents of files, by their places, it is the file at this place that is read.

Main definitions:

* `Folder.changed`: a tree whose files have other contents;
* `Folder.LeadsTo`: the place that a path leads to;
* `Folder.IsFileBelow`: a regular file below a root, and its place.

Main statements:

* `Folder.exists_resolve_changed`: paths in a tree and in the changed tree;
* `Folder.exists_leadsTo`: every path has a place;
* `Folder.IsFileBelow.leadsTo`: a regular file below a root stands at the place that its names tell;
* `Walker.traverse_changed`: a walk does not depend on contents.
-/

namespace SourceWatch

namespace Folder

/-- What becomes of the contents of files, by the place of each file. -/
abbrev Change := List String → List UInt8 → List UInt8

/-- A folder at a place, with the contents of its files and of the files below it changed. -/
def changed (change : Change) (place : List String) : Folder → Folder
  | [] => []
  | (name, .file bytes) :: rest =>
    (name, .file (change (place ++ [name]) bytes)) :: changed change place rest
  | (name, .link target) :: rest => (name, .link target) :: changed change place rest
  | (name, .folder entries) :: rest =>
    (name, .folder (changed change (place ++ [name]) entries)) :: changed change place rest

/-- The change of one file. -/
def overwriting (place : List String) (bytes : List UInt8) : Change :=
  fun other old => if other = place then bytes else old

/-- An entry at a place, with contents changed. -/
def changedNode (change : Change) (place : List String) : Node → Node
  | .file bytes => .file (change place bytes)
  | .link target => .link target
  | .folder entries => .folder (changed change place entries)

/-- The place that a trail ends at. -/
def placeOf (trail : Trail) : List String :=
  (trail.map (·.1)).reverse

/-- A trail in the changed tree. -/
def changedTrail (change : Change) : Trail → Trail
  | [] => []
  | (name, folder) :: outer =>
    (name, changed change (placeOf ((name, folder) :: outer)) folder) :: changedTrail change outer

/-- What a path leads to in the changed tree, if it leads to a file at `place`. -/
def changedTarget (change : Change) (place : List String) : Target → Target
  | .file bytes => .file (change place bytes)
  | .folder trail entries => .folder (changedTrail change trail) (changed change (placeOf trail) entries)

/-- Where following a path stops in the changed tree. -/
def changedStop (change : Change) (place : List String) : Stop → Stop
  | .reached target => .reached (changedTarget change place target)
  | .failed fault => .failed fault
  | .atLink target trail rest => .atLink target (changedTrail change trail) rest

/-- **The place that a path leads to.**  Whatever becomes of the contents of files, reading the path is reading what
became of the file at this place. -/
def LeadsTo (top : Folder) (s : String) (place : List String) : Prop :=
  ∀ change, (top.changed change []).readFile s = (top.readFile s).map (change place)

variable {top folder entries inner : Folder} {trail : Trail} {name s : String} {place : List String}

/-! ### Folders and trails -/

theorem changed_cons (change : Change) (place : List String) (name : String) (node : Node) (rest : Folder) :
    changed change place ((name, node) :: rest) =
      (name, changedNode change (place ++ [name]) node) :: changed change place rest := by
  cases node <;> rw [changed] <;> rfl

theorem changed_nil (change : Change) (place : List String) : changed change place [] = [] := by
  rw [changed]

theorem names_changed (change : Change) (place : List String) (folder : Folder) :
    (folder.changed change place).map (·.1) = folder.map (·.1) := by
  induction folder with
  | nil => rw [changed_nil]
  | cons entry rest ih => rw [changed_cons, List.map_cons, List.map_cons, ih]

theorem mem_changed (change : Change) (place : List String) {node : Node} (h : (name, node) ∈ folder) :
    (name, changedNode change (place ++ [name]) node) ∈ folder.changed change place := by
  induction folder with
  | nil => cases h
  | cons entry rest ih =>
    rw [changed_cons]
    rcases List.mem_cons.mp h with rfl | h
    · exact List.mem_cons_self
    · exact List.mem_cons_of_mem _ (ih h)

theorem child?_changed (change : Change) (place : List String) (folder : Folder) (name : String) :
    child? (folder.changed change place) name =
      (child? folder name).map (changedNode change (place ++ [name])) := by
  induction folder with
  | nil =>
    rw [changed_nil]
    rfl
  | cons entry rest ih =>
    obtain ⟨other, node⟩ := entry
    rw [changed_cons]
    by_cases h : other = name
    · subst h
      simp [child?]
    · simpa [child?, h] using ih

theorem current_changed (change : Change) (top : Folder) (trail : Trail) :
    current (top.changed change []) (changedTrail change trail) =
      (current top trail).changed change (placeOf trail) := by
  cases trail with
  | nil => rfl
  | cons place outer => rfl

theorem placeOf_cons (name : String) (folder : Folder) (outer : Trail) :
    placeOf ((name, folder) :: outer) = placeOf outer ++ [name] :=
  List.reverse_cons

theorem all_names_changed (change : Change) (place : List String) (folder : Folder) (name : String) :
    (folder.changed change place).all (·.1 != name) = folder.all (·.1 != name) := by
  have hmap : ∀ folder : Folder, folder.all (·.1 != name) = (folder.map (·.1)).all (· != name) := by
    intro folder
    rw [List.all_map]
    rfl
  rw [hmap, hmap, names_changed]

/-- A folder stays as well-formed as it is: its names do not change. -/
theorem isWellFormed_changed (change : Change) (place : List String) (folder : Folder) :
    (folder.changed change place).isWellFormed = folder.isWellFormed := by
  induction place, folder using changed.induct with
  | case1 place => rw [changed_nil]
  | case2 place name bytes rest ih => rw [changed, isWellFormed, isWellFormed, all_names_changed, ih]
  | case3 place name target rest ih => rw [changed, isWellFormed, isWellFormed, all_names_changed, ih]
  | case4 place name inner rest ihInner ihRest =>
    rw [changed, isWellFormed, isWellFormed, all_names_changed, ihInner, ihRest]

theorem Descends.changed (change : Change) {dirs : List String} (h : Descends folder dirs inner)
    (place : List String) :
    Descends (folder.changed change place) dirs (inner.changed change (place ++ dirs)) := by
  induction h generalizing place with
  | here folder =>
    rw [List.append_nil]
    exact .here _
  | @into folder inner last name names entry below ih =>
    have hbelow := ih (place ++ [name])
    rw [List.append_assoc, List.singleton_append] at hbelow
    exact .into (mem_changed change place entry) hbelow

/-! ### Following a path -/

theorem followOutside_changed (change : Change) (place : List String) (names : List String) :
    followOutside names = (followOutside names).map (changedTarget change place) := by
  unfold followOutside
  split
  · simp [outside, Except.map, changedTarget, changedTrail, changed_nil]
  · rfl

/-- Following names up to the first link stops where it stopped before. -/
theorem exists_advance_changed (top : Folder) (trail : Trail) (names : List String) :
    ∃ place, ∀ change, advance (top.changed change []) (changedTrail change trail) names =
      changedStop change place (advance top trail names) := by
  induction trail, names using advance.induct top with
  | case1 trail =>
    refine ⟨[], fun change => ?_⟩
    rw [advance_nil, advance_nil, current_changed]
    rfl
  | case2 trail name rest hidle ih =>
    obtain ⟨place, h⟩ := ih
    refine ⟨place, fun change => ?_⟩
    rw [advance_idle hidle, advance_idle hidle, h change]
  | case3 rest target hout hidle =>
    refine ⟨[], fun change => ?_⟩
    have hsame := followOutside_changed change [] rest
    rw [hout] at hsame
    rw [changedTrail, advance.eq_def, advance.eq_def]
    simp only [if_neg hidle, hout, if_true, changedStop]
    exact congrArg Stop.reached (Except.ok.inj hsame)
  | case4 rest fault hout hidle =>
    refine ⟨[], fun change => ?_⟩
    rw [changedTrail, advance.eq_def, advance.eq_def]
    simp only [if_neg hidle, hout, if_true, changedStop]
  | case5 rest entered outer hidle ih =>
    obtain ⟨place, h⟩ := ih
    refine ⟨place, fun change => ?_⟩
    rw [changedTrail, advance_up, advance_up, h change]
  | case6 trail name rest hidle hup hlong =>
    refine ⟨[], fun change => ?_⟩
    rw [advance.eq_def, advance.eq_def]
    simp only [if_neg hidle, if_neg hup, if_pos hlong, changedStop]
  | case7 trail name rest hidle hup hlong he =>
    refine ⟨[], fun change => ?_⟩
    rw [advance_entry hidle hup hlong, advance_entry hidle hup hlong, current_changed, child?_changed, he]
    rfl
  | case8 trail name rest hidle hup hlong next he ih =>
    obtain ⟨place, h⟩ := ih
    refine ⟨place, fun change => ?_⟩
    rw [advance_entry hidle hup hlong, advance_entry hidle hup hlong, current_changed, child?_changed, he]
    have hnext := h change
    rw [changedTrail, placeOf_cons] at hnext
    exact hnext
  | case9 trail name rest hidle hup hlong bytes he hrest =>
    refine ⟨placeOf trail ++ [name], fun change => ?_⟩
    rw [advance_entry hidle hup hlong, advance_entry hidle hup hlong, current_changed, child?_changed, he]
    simp only [Option.map_some, changedNode, if_pos hrest]
    rfl
  | case10 trail name rest hidle hup hlong bytes he hrest =>
    refine ⟨[], fun change => ?_⟩
    rw [advance_entry hidle hup hlong, advance_entry hidle hup hlong, current_changed, child?_changed, he]
    simp only [Option.map_some, changedNode, if_neg hrest]
    rfl
  | case11 trail name rest hidle hup hlong target he =>
    refine ⟨[], fun change => ?_⟩
    rw [advance_entry hidle hup hlong, advance_entry hidle hup hlong, current_changed, child?_changed, he]
    rfl

theorem exists_follow_changed (top : Folder) (links : ℕ) (trail : Trail) (names : List String) :
    ∃ place, ∀ change, follow (top.changed change []) links (changedTrail change trail) names =
      (follow top links trail names).map (changedTarget change place) := by
  induction links, trail, names using follow.induct top with
  | case1 links trail names target hstop =>
    obtain ⟨place, h⟩ := exists_advance_changed top trail names
    refine ⟨place, fun change => ?_⟩
    rw [follow, follow, h change, hstop]
    rfl
  | case2 links trail names fault hstop =>
    obtain ⟨place, h⟩ := exists_advance_changed top trail names
    refine ⟨place, fun change => ?_⟩
    rw [follow, follow, h change, hstop]
    rfl
  | case3 trail names target reached rest hstop =>
    obtain ⟨place, h⟩ := exists_advance_changed top trail names
    refine ⟨place, fun change => ?_⟩
    rw [follow, follow, h change, hstop]
    rfl
  | case4 trail names target reached rest hstop links habs =>
    obtain ⟨place, h⟩ := exists_advance_changed top trail names
    refine ⟨place, fun change => ?_⟩
    rw [follow, follow, h change, hstop]
    simp only [changedStop, if_pos habs]
    exact followOutside_changed change place _
  | case5 trail names target reached rest hstop links habs ih =>
    obtain ⟨early, hadvance⟩ := exists_advance_changed top trail names
    obtain ⟨place, h⟩ := ih
    refine ⟨place, fun change => ?_⟩
    rw [follow, follow, hadvance change, hstop]
    simp only [changedStop, if_neg habs]
    exact h change

/-- **Paths lead where they led before.**  Of the contents of files, those at one place matter. -/
theorem exists_resolve_changed (top : Folder) (s : String) :
    ∃ place, ∀ change,
      (top.changed change []).resolve s = (top.resolve s).map (changedTarget change place) := by
  obtain ⟨place, h⟩ := exists_follow_changed top linkBudget [] (Path.split s)
  refine ⟨place, fun change => ?_⟩
  unfold resolve
  split
  · rfl
  split
  · rfl
  split
  · rfl
  split
  · exact followOutside_changed change place _
  · exact h change

/-- **Every path has a place.** -/
theorem exists_leadsTo (top : Folder) (s : String) : ∃ place, top.LeadsTo s place := by
  obtain ⟨place, h⟩ := exists_resolve_changed top s
  refine ⟨place, fun change => ?_⟩
  rw [readFile, readFile, h change]
  cases top.resolve s with
  | error fault => rfl
  | ok target => cases target <;> rfl

theorem isFolder_changed (change : Change) (top : Folder) (s : String) :
    (top.changed change []).isFolder s = top.isFolder s := by
  obtain ⟨place, h⟩ := exists_resolve_changed top s
  rw [isFolder, isFolder, h change]
  cases top.resolve s with
  | error fault => rfl
  | ok target => cases target <;> rfl

/-! ### Regular files below a root -/

/-- A regular file below the folder that `root` leads to, by its path and its place. -/
inductive IsFileBelow (top : Folder) (root : Path) : Path → List String → Prop
  | intro {trail : Trail} {entries inner : Folder} {dirs : List String} {name : String} {bytes : List UInt8}
      (leads : top.resolve root.render = .ok (.folder trail entries)) (down : Descends entries dirs inner)
      (entry : (name, .file bytes) ∈ inner) :
      IsFileBelow top root (root.descend (dirs ++ [name])) (placeOf trail ++ (dirs ++ [name]))

theorem resolve_changed_of_folder (change : Change) (h : top.resolve s = .ok (.folder trail entries)) :
    (top.changed change []).resolve s =
      .ok (.folder (changedTrail change trail) (entries.changed change (placeOf trail))) := by
  obtain ⟨place, hresolve⟩ := exists_resolve_changed top s
  rw [hresolve change, h]
  rfl

/-- What is read at a path that starts with no slash depends on where following its names ends. -/
theorem readFile_congr {other : Folder} {f : List UInt8 → List UInt8} (habs : ¬ ['/'] <+: s.toList)
    {bytes : List UInt8} (h : follow top linkBudget [] (Path.split s) = .ok (.file bytes))
    (h' : follow other linkBudget [] (Path.split s) = .ok (.file (f bytes))) :
    other.readFile s = (top.readFile s).map f := by
  have hslash : ¬ s.startsWith "/" = true := by simpa using habs
  unfold readFile resolve
  simp only [if_neg hslash, h, h']
  split_ifs <;> rfl

/-- **A regular file below a root stands at the place that its names tell.** -/
theorem IsFileBelow.leadsTo (ht : top.isWellFormed = true) {root p : Path}
    (h : IsFileBelow top root p place) : top.LeadsTo p.render place := by
  obtain ⟨leads, down, entry⟩ := h
  intro change
  obtain ⟨habs, hfile⟩ := follow_of_file ht leads down entry
  obtain ⟨-, hfile'⟩ := follow_of_file ((isWellFormed_changed change [] top).trans ht)
    (resolve_changed_of_folder change leads) (down.changed change _) (mem_changed change _ entry)
  rw [List.append_assoc] at hfile'
  exact readFile_congr habs hfile hfile'

/-- Two regular files below a root have two places. -/
theorem IsFileBelow.place_ne {root p q : Path} {other : List String} (hp : IsFileBelow top root p place)
    (hq : IsFileBelow top root q other) (hne : p ≠ q) : place ≠ other := by
  obtain ⟨leads, -, -⟩ := hp
  obtain ⟨leads', -, -⟩ := hq
  rw [leads] at leads'
  cases leads'
  intro heq
  exact hne (congrArg root.descend (List.append_cancel_left heq))

end Folder

/-! ### Walks and readings -/

namespace Walker

open Folder

variable {top folder : Folder}

theorem isFile_changed (change : Change) (top : Folder) (shown : Path) (name : String) (place : List String)
    (node : Node) :
    isFile (top.changed change []) shown (name, changedNode change place node) =
      isFile top shown (name, node) := by
  cases node with
  | file bytes => rfl
  | folder entries => rfl
  | link target => exact congrArg (!·) (isFolder_changed change top _)

theorem filesIn_changed (w : Walker) (change : Change) (top : Folder) (shown : Path) (place : List String)
    (folder : Folder) :
    w.filesIn (top.changed change []) shown (folder.changed change place) = w.filesIn top shown folder := by
  unfold filesIn
  induction folder with
  | nil => rw [changed_nil, List.filter_nil, List.filter_nil]
  | cons entry rest ih =>
    obtain ⟨name, node⟩ := entry
    rw [changed_cons, List.filter_cons, List.filter_cons, isFile_changed]
    split
    · rw [List.map_cons, List.map_cons, ih]
    · exact ih

theorem filesBelow_changed (w : Walker) (change : Change) (top : Folder) (shown : Path) (folder : Folder)
    (place : List String) :
    w.filesBelow (top.changed change []) shown (folder.changed change place) =
      w.filesBelow top shown folder := by
  induction shown, folder using filesBelow.induct w top generalizing place with
  | case1 shown => rw [changed_nil, filesBelow, filesBelow]
  | case2 shown dir inner rest ihInner ihRest =>
    rw [changed, filesBelow_folder, filesBelow_folder, listing, listing, filesIn_changed, ihInner, ihRest]
  | case3 shown name bytes rest ih => rw [changed, filesBelow, filesBelow, ih]
  | case4 shown name target rest ih => rw [changed, filesBelow, filesBelow, ih]

/-- **A walk does not depend on the contents of files.** -/
theorem traverse_changed (w : Walker) (change : Change) (top : Folder) (root : Path) :
    w.traverse (top.changed change []) root = w.traverse top root := by
  obtain ⟨place, h⟩ := exists_resolve_changed top root.render
  unfold traverse
  rw [h change]
  rcases top.resolve root.render with fault | bytes | ⟨trail, entries⟩
  · rfl
  · rfl
  · show Traversal.mk [] (w.filesIn _ root _ ++ w.filesBelow _ root _) = _
    rw [filesIn_changed, filesBelow_changed]

end Walker

end SourceWatch
