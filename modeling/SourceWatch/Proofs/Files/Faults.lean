import SourceWatch.Proofs.Files.Walk

/-!
# Why paths lead nowhere

A path fails for the way that its names take: a name is missing, stands behind a file, is too long, or there are
too many links.  Only a path with a NUL fails before it is followed at all, and names in a folder have none.

Main definition: `FileFault.IsMetOnTheWay`, the faults of names that are followed.

Main statements:

* `Folder.resolve_error`: why a path leads nowhere;
* `Folder.sizeOf_congr`: what is read at a path determines the size that it reports;
* `Walker.notNul_of_mem_traverse`: the paths of a walk have no NUL if its root has none.
-/

namespace SourceWatch

/-- The faults that are met on the way, as names are followed. -/
inductive FileFault.IsMetOnTheWay : FileFault → Prop
  | missing : IsMetOnTheWay .missing
  | notFolder : IsMetOnTheWay .notFolder
  | nameTooLong : IsMetOnTheWay .nameTooLong
  | tooManyLinks : IsMetOnTheWay .tooManyLinks

namespace Folder

variable {top : Folder} {trail : Trail} {names : List String} {s : String} {fault : FileFault}

theorem followOutside_error (h : followOutside names = .error fault) : fault.IsMetOnTheWay := by
  unfold followOutside at h
  split at h
  · cases h
  · cases h
    exact .missing

theorem advance_failed (h : advance top trail names = .failed fault) : fault.IsMetOnTheWay := by
  induction trail, names using advance.induct top with
  | case1 trail =>
    rw [advance_nil] at h
    cases h
  | case2 trail name rest hidle ih => exact ih (advance_idle hidle ▸ h)
  | case3 rest target hout hidle =>
    rw [advance.eq_def] at h
    simp only [if_neg hidle, hout, if_true] at h
    cases h
  | case4 rest fault hout hidle =>
    rw [advance.eq_def] at h
    simp only [if_neg hidle, hout, if_true] at h
    cases h
    exact followOutside_error hout
  | case5 rest entered outer hidle ih =>
    rw [advance_up] at h
    exact ih h
  | case6 trail name rest hidle hup hlong =>
    rw [advance.eq_def] at h
    simp only [if_neg hidle, if_neg hup, if_pos hlong] at h
    cases h
    exact .nameTooLong
  | case7 trail name rest hidle hup hlong he =>
    rw [advance_entry hidle hup hlong, he] at h
    cases h
    exact .missing
  | case8 trail name rest hidle hup hlong next he ih =>
    rw [advance_entry hidle hup hlong, he] at h
    exact ih h
  | case9 trail name rest hidle hup hlong bytes he hrest =>
    rw [advance_entry hidle hup hlong, he] at h
    simp only [if_pos hrest] at h
    cases h
  | case10 trail name rest hidle hup hlong bytes he hrest =>
    rw [advance_entry hidle hup hlong, he] at h
    simp only [if_neg hrest] at h
    cases h
    exact .notFolder
  | case11 trail name rest hidle hup hlong target he =>
    rw [advance_entry hidle hup hlong, he] at h
    cases h

theorem follow_error {links : ℕ} (h : follow top links trail names = .error fault) : fault.IsMetOnTheWay := by
  induction links, trail, names using follow.induct top with
  | case1 links trail names target hstop =>
    rw [follow, hstop] at h
    cases h
  | case2 links trail names fault hstop =>
    rw [follow, hstop] at h
    cases h
    exact advance_failed hstop
  | case3 trail names target reached rest hstop =>
    rw [follow, hstop] at h
    cases h
    exact .tooManyLinks
  | case4 trail names target reached rest hstop links habs =>
    rw [follow, hstop] at h
    simp only [if_pos habs] at h
    exact followOutside_error h
  | case5 trail names target reached rest hstop links habs ih =>
    rw [follow, hstop] at h
    simp only [if_neg habs] at h
    exact ih h

/-- **Why a path leads nowhere.**  A path with a NUL is not followed; any other fails on its way. -/
theorem resolve_error (h : top.resolve s = .error fault) :
    '\x00' ∈ s.toList ∧ fault = .embeddedNul ∨ '\x00' ∉ s.toList ∧ fault.IsMetOnTheWay := by
  unfold resolve at h
  by_cases hnul : s.contains '\x00' = true
  · rw [if_pos hnul] at h
    cases h
    exact .inl ⟨by simpa using hnul, rfl⟩
  · refine .inr ⟨by simpa using hnul, ?_⟩
    rw [if_neg hnul] at h
    split at h
    · cases h
      exact .nameTooLong
    split at h
    · cases h
      exact .missing
    split at h
    · exact followOutside_error h
    · exact follow_error h

/-- A path that leads somewhere has no NUL. -/
theorem notNul_of_resolve {target : Target} (h : top.resolve s = .ok target) : '\x00' ∉ s.toList := by
  intro hnul
  unfold resolve at h
  rw [if_pos (by simpa using hnul)] at h
  cases h

/-- The size of what a path leads to, told by reading it. -/
theorem sizeOf_eq (top : Folder) (s : String) :
    top.sizeOf s = match top.readFile s with
      | .ok bytes => .ok bytes.length
      | .error .isFolder => .ok folderSize
      | .error fault => .error fault := by
  unfold sizeOf readFile
  cases h : top.resolve s with
  | ok target => cases target <;> rfl
  | error fault =>
    rcases resolve_error h with ⟨-, rfl⟩ | ⟨-, hway⟩
    · rfl
    · cases hway <;> rfl

theorem sizeOf_error (h : top.sizeOf s = .error fault) : top.resolve s = .error fault := by
  unfold sizeOf at h
  split at h
  · cases h
  · cases h
  · cases h
    assumption

theorem readFile_error (h : top.readFile s = .error fault) :
    fault = .isFolder ∨ top.resolve s = .error fault := by
  unfold readFile at h
  split at h
  · cases h
  · cases h
    exact .inl rfl
  · cases h
    right
    assumption

/-- **What is read at a path determines the size that it reports.** -/
theorem sizeOf_congr {other : Folder} (h : other.readFile s = top.readFile s) :
    other.sizeOf s = top.sizeOf s := by
  rw [sizeOf_eq, sizeOf_eq, h]

end Folder

namespace Walker

open Folder

variable {w : Walker} {top : Folder} {root p : Path}

/-- **The paths of a walk have no NUL if its root has none.** -/
theorem notNul_of_mem_traverse (ht : top.isWellFormed = true) (hroot : '\x00' ∉ root.render.toList)
    (hp : p ∈ (w.traverse top root).files) : '\x00' ∉ p.render.toList := by
  unfold traverse at hp
  cases h : top.resolve root.render with
  | error fault =>
    rw [h] at hp
    cases hp
  | ok target =>
    cases target with
    | file bytes =>
      rw [h] at hp
      cases hp
    | folder trail entries =>
      rw [h] at hp
      obtain ⟨dirs, inner, name, node, hd, -, hm, -, -, rfl⟩ := exists_of_mem_listing hp
      have hproper := hd.isProperName_append (isWellFormed_of_resolve ht h) hm
      exact Path.not_mem_render_descend (by decide) hroot fun n hn => notNul_of_isProperName (hproper n hn)

end Walker

end SourceWatch
