import SourceWatch.Files.Tree
import SourceWatch.Proofs.Files.Names

/-!
# Well-formed file trees

A folder of a file system holds entries with distinct names, and no name is empty, a single or double
dot, contains a slash or a NUL, or is longer than a folder can store.

Main definitions:

* `Folder.isWellFormed`: these conditions, for a folder and all folders below it;
* `Folder.Descends`: going down from folder to folder, through no link.

Main statement: `Folder.child?_eq_some`, looking a name up finds the entry that has it.
-/

namespace SourceWatch.Folder

/-- Whether a folder can hold an entry with this name. -/
def isProperName (name : String) : Bool :=
  !Path.isIdle name && name != ".." && !name.toList.contains '/' && !name.toList.contains '\x00' &&
    !isLongName name

/-- Whether the entries of a folder and of all folders below it have proper and distinct names. -/
def isWellFormed : Folder → Bool
  | [] => true
  | (name, .folder entries) :: rest =>
    isProperName name && rest.all (·.1 != name) && isWellFormed entries && isWellFormed rest
  | (name, .file _) :: rest => isProperName name && rest.all (·.1 != name) && isWellFormed rest
  | (name, .link _) :: rest => isProperName name && rest.all (·.1 != name) && isWellFormed rest

variable {folder inner last : Folder} {name : String} {node : Node} {names : List String}

theorem isWellFormed_cons (h : isWellFormed ((name, node) :: folder) = true) :
    isProperName name = true ∧ (∀ entry ∈ folder, entry.1 ≠ name) ∧ folder.isWellFormed = true := by
  cases node <;> simp only [isWellFormed, Bool.and_eq_true, List.all_eq_true, bne_iff_ne] at h
  · exact ⟨h.1.1, h.1.2, h.2⟩
  · exact ⟨h.1.1, h.1.2, h.2⟩
  · exact ⟨h.1.1.1, h.1.1.2, h.2⟩

theorem isWellFormed_cons_folder (h : isWellFormed ((name, .folder inner) :: folder) = true) :
    inner.isWellFormed = true := by
  simp only [isWellFormed, Bool.and_eq_true] at h
  exact h.1.2

/-- The names of the entries are distinct. -/
theorem nodup_names (h : folder.isWellFormed = true) : (folder.map (·.1)).Nodup := by
  induction folder with
  | nil => exact List.nodup_nil
  | cons entry folder ih =>
    obtain ⟨name, node⟩ := entry
    obtain ⟨_, hdistinct, hrest⟩ := isWellFormed_cons h
    rw [List.map_cons, List.nodup_cons]
    refine ⟨fun hm => ?_, ih hrest⟩
    obtain ⟨entry, he, hname⟩ := List.mem_map.mp hm
    exact hdistinct entry he hname

theorem isProperName_of_mem (h : folder.isWellFormed = true) (hm : (name, node) ∈ folder) :
    isProperName name = true := by
  induction folder with
  | nil => cases hm
  | cons entry folder ih =>
    rcases List.mem_cons.mp hm with rfl | hm
    · exact (isWellFormed_cons h).1
    · exact ih (isWellFormed_cons h).2.2 hm

/-- The folders within a well-formed folder are well-formed. -/
theorem isWellFormed_of_mem (h : folder.isWellFormed = true) (hm : (name, .folder inner) ∈ folder) :
    inner.isWellFormed = true := by
  induction folder with
  | nil => cases hm
  | cons entry folder ih =>
    rcases List.mem_cons.mp hm with rfl | hm
    · exact isWellFormed_cons_folder h
    · exact ih (isWellFormed_cons h).2.2 hm

/-- Looking a name up finds the entry that has it. -/
theorem child?_eq_some (h : folder.isWellFormed = true) (hm : (name, node) ∈ folder) :
    child? folder name = some node := by
  induction folder with
  | nil => cases hm
  | cons entry folder ih =>
    obtain ⟨_, hdistinct, hrest⟩ := isWellFormed_cons h
    rcases List.mem_cons.mp hm with rfl | hm
    · simp [child?]
    · have hne : entry.1 ≠ name := fun he => hdistinct _ hm he.symm
      have := ih hrest hm
      simpa [child?, hne] using this

theorem notSlash_of_isProperName (h : isProperName name = true) : '/' ∉ name.toList := by
  simp only [isProperName, Bool.and_eq_true, Bool.not_eq_true', List.contains_eq_mem,
    decide_eq_false_iff_not] at h
  exact h.1.1.2

theorem notNul_of_isProperName (h : isProperName name = true) : '\x00' ∉ name.toList := by
  simp only [isProperName, Bool.and_eq_true, Bool.not_eq_true', List.contains_eq_mem,
    decide_eq_false_iff_not] at h
  exact h.1.2

/-! ### Going down -/

/-- Going down from a folder to the folder that names lead to, from each folder to one that is an entry
of it. -/
inductive Descends : Folder → List String → Folder → Prop
  | here (folder : Folder) : Descends folder [] folder
  | into {folder inner last : Folder} {name : String} {names : List String}
      (entry : (name, .folder inner) ∈ folder) (below : Descends inner names last) :
      Descends folder (name :: names) last

theorem Descends.isWellFormed (h : Descends folder names last) (hf : folder.isWellFormed = true) :
    last.isWellFormed = true := by
  induction h with
  | here => exact hf
  | into entry _ ih => exact ih (isWellFormed_of_mem hf entry)

theorem Descends.isProperName (h : Descends folder names last) (hf : folder.isWellFormed = true) :
    ∀ name ∈ names, isProperName name = true := by
  induction h with
  | here => simp
  | into entry _ ih =>
    intro name hm
    rcases List.mem_cons.mp hm with rfl | hm
    · exact isProperName_of_mem hf entry
    · exact ih (isWellFormed_of_mem hf entry) name hm

/-- All names on the way down to an entry are proper. -/
theorem Descends.isProperName_append (h : Descends folder names last)
    (hf : folder.isWellFormed = true) (hm : (name, node) ∈ last) :
    ∀ n ∈ names ++ [name], Folder.isProperName n = true := by
  intro n hn
  rcases List.mem_append.mp hn with hn | hn
  · exact h.isProperName hf n hn
  · exact List.mem_singleton.mp hn ▸ isProperName_of_mem (h.isWellFormed hf) hm

end SourceWatch.Folder
