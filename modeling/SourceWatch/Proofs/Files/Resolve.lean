import SourceWatch.Proofs.Files.WellFormed

/-!
# Following paths into folders

Following a path that is extended by names is following the path, and then the names from where it
leads.  Names that go down from folder to folder lead where they say, so what a walk finds below a path
is also what the extended path leads to.

Main statements:

* `Folder.follow_append`: following a path in two parts;
* `Folder.follow_descends`: names that go down lead to the folder below;
* `Folder.follow_of_file`: the extended path of a regular file is followed to the file;
* `Folder.readFile_of_mem`: the name of a regular file at the top leads to its bytes;
* `Folder.isFolder_of_file`: it leads to no folder.
-/

namespace SourceWatch.Folder

variable {top folder entries inner : Folder} {trail reached : Trail} {names dirs : List String}

/-- All folders on a trail are well-formed. -/
def IsSound (trail : Trail) : Prop :=
  ∀ place ∈ trail, place.2.isWellFormed = true

theorem IsSound.current (h : IsSound trail) (ht : top.isWellFormed = true) :
    (current top trail).isWellFormed = true := by
  cases trail with
  | nil => exact ht
  | cons place trail => exact h place List.mem_cons_self

theorem mem_of_child?_eq_some {name : String} {node : Node} (h : child? folder name = some node) :
    (name, node) ∈ folder := by
  simp only [child?, Option.map_eq_some_iff] at h
  obtain ⟨⟨found, kept⟩, hf, rfl⟩ := h
  have hname : found = name := by simpa using List.find?_some hf
  exact hname ▸ List.mem_of_find?_eq_some hf

theorem followOutside_folder {places : Trail} (h : followOutside names = .ok (.folder places entries)) :
    entries = [] := by
  unfold followOutside at h
  split at h
  · cases h
    rfl
  · cases h

/-! ### One name -/

section Advance

variable {name : String} {rest : List String}

theorem advance_nil (top : Folder) (trail : Trail) :
    advance top trail [] = .reached (.folder trail (current top trail)) := by
  rw [advance.eq_def]

theorem advance_idle (h : Path.isIdle name = true) :
    advance top trail (name :: rest) = advance top trail rest := by
  rw [advance.eq_def]
  exact if_pos h

theorem advance_up (place : String × Folder) :
    advance top (place :: trail) (".." :: rest) = advance top trail rest := by
  rw [advance.eq_def]
  rfl

/-- Stepping to an entry that is neither idle nor a step up. -/
theorem advance_entry (hidle : ¬ Path.isIdle name = true) (hup : name ≠ "..")
    (hlong : ¬ isLongName name = true) :
    advance top trail (name :: rest) =
      match child? (current top trail) name with
      | none => .failed .missing
      | some (.folder entries) => advance top ((name, entries) :: trail) rest
      | some (.file bytes) => if rest.isEmpty then .reached (.file bytes) else .failed .notFolder
      | some (.link target) => .atLink target trail rest := by
  rw [advance.eq_def]
  rcases hentry : child? (current top trail) name with _ | _ | _ | _ <;>
    simp only [if_neg hidle, if_neg hup, if_neg hlong, hentry]

/-- Stepping to an entry of a well-formed folder. -/
theorem advance_of_mem {node : Node} (hc : (current top trail).isWellFormed = true)
    (hm : (name, node) ∈ current top trail) :
    advance top trail (name :: rest) =
      match node with
      | .folder entries => advance top ((name, entries) :: trail) rest
      | .file bytes => if rest.isEmpty then .reached (.file bytes) else .failed .notFolder
      | .link target => .atLink target trail rest := by
  have hname := isProperName_of_mem hc hm
  simp only [isProperName, Bool.and_eq_true, Bool.not_eq_true', bne_iff_ne] at hname
  rw [advance_entry (by simp [hname.1.1.1.1]) hname.1.1.1.2 (by simp [hname.2]),
    child?_eq_some hc hm]
  cases node <;> rfl

end Advance

/-! ### Up to the first link -/

/-- How following `names`, up to the first link, goes on when more names follow: from the folder that is
reached, or with the link at hand.  The one folder from which it does not go on lies above the top, where
nothing is. -/
def GoesOn (top : Folder) (trail : Trail) (names : List String) : Stop → Prop
  | .reached (.folder reached entries) =>
    entries = [] ∨ (IsSound reached ∧ entries = current top reached ∧
      ∀ more, advance top trail (names ++ more) = advance top reached more)
  | .atLink target reached rest =>
    IsSound reached ∧ ∀ more, advance top trail (names ++ more) = .atLink target reached (rest ++ more)
  | _ => True

theorem GoesOn.of_step {next : Trail} {rest : List String} {stop : Stop}
    (hstep : ∀ more, advance top trail (names ++ more) = advance top next (rest ++ more))
    (h : GoesOn top next rest stop) : GoesOn top trail names stop := by
  cases stop with
  | reached target =>
    cases target with
    | folder reached entries =>
      exact h.imp_right fun hr => ⟨hr.1, hr.2.1, fun more => (hstep more).trans (hr.2.2 more)⟩
    | file bytes => trivial
  | failed fault => trivial
  | atLink target reached rest => exact ⟨h.1, fun more => (hstep more).trans (h.2 more)⟩

/-- **Following names up to the first link goes on when more names follow.** -/
theorem goesOn_advance (ht : top.isWellFormed = true) (hs : IsSound trail) :
    GoesOn top trail names (advance top trail names) := by
  induction trail, names using advance.induct top with
  | case1 trail =>
    rw [advance_nil]
    exact .inr ⟨hs, rfl, fun more => rfl⟩
  | case2 trail name rest hidle ih =>
    rw [advance_idle hidle]
    exact (ih hs).of_step fun more => advance_idle hidle
  | case3 rest target hout hidle =>
    rw [advance.eq_def]
    simp only [if_neg hidle, hout, if_true]
    cases target with
    | folder reached entries => exact .inl (followOutside_folder hout)
    | file bytes => trivial
  | case4 rest fault hout hidle =>
    rw [advance.eq_def]
    simp only [if_neg hidle, hout, if_true]
    trivial
  | case5 rest place outer hidle ih =>
    rw [advance_up]
    exact (ih fun p hp => hs p (List.mem_cons_of_mem place hp)).of_step fun more => advance_up place
  | case6 trail name rest hidle hup hlong =>
    rw [advance.eq_def]
    simp only [if_neg hidle, if_neg hup, if_pos hlong]
    trivial
  | case8 trail name rest hidle hup hlong next he ih =>
    rw [advance_entry hidle hup hlong, he]
    have hnext : IsSound ((name, next) :: trail) := by
      intro place hp
      rcases List.mem_cons.mp hp with rfl | hp
      · exact isWellFormed_of_mem (hs.current ht) (mem_of_child?_eq_some he)
      · exact hs place hp
    refine (ih hnext).of_step fun more => ?_
    rw [List.cons_append, advance_entry hidle hup hlong, he]
  | case11 trail name rest hidle hup hlong target he =>
    rw [advance_entry hidle hup hlong, he]
    refine ⟨hs, fun more => ?_⟩
    rw [List.cons_append, advance_entry hidle hup hlong, he]
  | case7 trail name rest hidle hup hlong he
  | case9 trail name rest hidle hup hlong bytes he hrest
  | case10 trail name rest hidle hup hlong bytes he hrest =>
    rw [advance_entry hidle hup hlong, he]
    simp_all [GoesOn]

/-! ### Through links -/

theorem follow_congr {next : Trail} {rest : List String} (links : ℕ)
    (h : advance top trail names = advance top next rest) :
    follow top links trail names = follow top links next rest := by
  rw [follow, follow, h]

theorem follow_link {target : String} {rest : List String} (links : ℕ)
    (h : advance top trail names = .atLink target reached rest)
    (htarget : ¬ target.startsWith "/" = true) :
    follow top (links + 1) trail names = follow top links reached (Path.split target ++ rest) := by
  rw [follow, h]
  simp only [if_neg htarget]

/-- **Following a path in two parts.**  What follows a path to a folder is followed from this folder,
with the links that are left. -/
theorem follow_append (ht : top.isWellFormed = true) {links : ℕ} (hs : IsSound trail)
    (h : follow top links trail names = .ok (.folder reached entries)) :
    entries = [] ∨ (IsSound reached ∧ entries = current top reached ∧
      ∃ left, ∀ more, follow top links trail (names ++ more) = follow top left reached more) := by
  induction links, trail, names using follow.induct top with
  | case1 links trail names target hstop =>
    have hgo : GoesOn top trail names _ := goesOn_advance ht hs
    rw [follow, hstop] at h
    cases h
    rw [hstop] at hgo
    exact hgo.imp_right fun hr =>
      ⟨hr.1, hr.2.1, links, fun more => follow_congr links (hr.2.2 more)⟩
  | case2 links trail names fault hstop =>
    rw [follow, hstop] at h
    cases h
  | case3 trail names target reached rest hstop =>
    rw [follow, hstop] at h
    cases h
  | case4 trail names target reached rest hstop links habs =>
    rw [follow, hstop] at h
    simp only [if_pos habs] at h
    exact .inl (followOutside_folder h)
  | case5 trail names target place rest hstop links habs ih =>
    have hgo : GoesOn top trail names _ := goesOn_advance ht hs
    rw [hstop] at hgo
    rw [Nat.succ_eq_add_one, follow_link links hstop habs] at h
    refine (ih hgo.1 h).imp_right fun hr => ⟨hr.1, hr.2.1, ?_⟩
    obtain ⟨left, hleft⟩ := hr.2.2
    refine ⟨left, fun more => ?_⟩
    rw [Nat.succ_eq_add_one, follow_link links (hgo.2 more) habs, ← List.append_assoc, hleft more]

/-! ### Down from folder to folder -/

/-- Names that go down lead to the folder below, and from there further. -/
theorem follow_descends (hd : Descends entries dirs inner)
    (he : current top trail = entries) (hw : entries.isWellFormed = true) (links : ℕ)
    (more : List String) :
    ∃ reached, current top reached = inner ∧
      follow top links trail (dirs ++ more) = follow top links reached more := by
  induction hd generalizing trail with
  | here => exact ⟨trail, he, rfl⟩
  | @into _ next _ name names entry _ ih =>
    subst he
    have hnext : current top ((name, next) :: trail) = next := rfl
    obtain ⟨reached, hr, hf⟩ := ih hnext (isWellFormed_of_mem hw entry)
    refine ⟨reached, hr, ?_⟩
    rw [List.cons_append, follow_congr links (advance_of_mem hw entry)]
    exact hf

/-! ### Paths as texts -/

/-- A path that starts with no slash is followed from the folder that the program runs in. -/
theorem resolve_eq_follow {s : String} (hnul : s.contains '\x00' = false)
    (hlong : s.utf8ByteSize ≤ longestPath) (hempty : s.isEmpty = false)
    (habs : s.startsWith "/" = false) :
    top.resolve s = follow top linkBudget [] (Path.split s) := by
  have hshort : ¬ longestPath < s.utf8ByteSize := Nat.not_lt.mpr hlong
  simp only [resolve, hnul, if_neg hshort, hempty, habs, Bool.false_eq_true, if_false]

/-- A path that leads somewhere is not empty and is followed from the right place. -/
theorem resolve_eq_ok {s : String} {target : Target} (h : top.resolve s = .ok target) :
    s ≠ "" ∧ (if s.startsWith "/" then followOutside (Path.split s)
      else follow top linkBudget [] (Path.split s)) = .ok target := by
  unfold resolve at h
  split at h
  · cases h
  split at h
  · cases h
  split at h
  · cases h
  · rename_i hempty
    exact ⟨by simpa using hempty, h⟩

theorem follow_of_resolve {s : String} {target : Target} (h : top.resolve s = .ok target)
    (habs : ¬ ['/'] <+: s.toList) : follow top linkBudget [] (Path.split s) = .ok target := by
  have hfollow := (resolve_eq_ok h).2
  rwa [if_neg (by simpa using habs)] at hfollow

/-- A path that leads to a folder with entries starts with no slash. -/
theorem not_slash_of_resolve {s : String} (h : top.resolve s = .ok (.folder trail entries))
    (he : entries ≠ []) : ¬ ['/'] <+: s.toList := by
  intro habs
  have hfollow := (resolve_eq_ok h).2
  rw [if_pos (by simpa using habs)] at hfollow
  exact he (followOutside_folder hfollow)

theorem resolve_of_isFolder {s : String} (h : top.isFolder s = true) :
    ∃ trail entries, top.resolve s = .ok (.folder trail entries) := by
  unfold isFolder at h
  split at h
  · exact ⟨_, _, by assumption⟩
  · cases h

/-- What follows a path to a folder with entries is followed from this folder. -/
theorem follow_append_of_resolve {s : String} (ht : top.isWellFormed = true)
    (h : top.resolve s = .ok (.folder trail entries)) (he : entries ≠ []) :
    IsSound trail ∧ entries = current top trail ∧ ∃ left, ∀ more,
      follow top linkBudget [] (Path.split s ++ more) = follow top left trail more := by
  have hsound : IsSound ([] : Trail) := by simp [IsSound]
  have hfollow := follow_of_resolve h (not_slash_of_resolve h he)
  exact (follow_append ht hsound hfollow).resolve_left he

/-- A path in a well-formed tree leads to well-formed folders only. -/
theorem isWellFormed_of_resolve {s : String} (ht : top.isWellFormed = true)
    (h : top.resolve s = .ok (.folder trail entries)) : entries.isWellFormed = true := by
  by_cases he : entries = []
  · rw [he, isWellFormed]
  · obtain ⟨hreached, hcur, -⟩ := follow_append_of_resolve ht h he
    exact hcur ▸ hreached.current ht

variable {root : Path} {name : String}

theorem not_slash_isPrefix_append {s t : String} (hne : s ≠ "") (h : ¬ ['/'] <+: s.toList) :
    ¬ ['/'] <+: (s ++ t).toList := by
  rw [String.toList_append]
  cases hs : s.toList with
  | nil => exact absurd (String.toList_eq_nil_iff.mp hs) hne
  | cons c cs =>
    rw [hs] at h
    simpa using h

/-- Following an extended path is following the names of the path and then the names that extend it. -/
theorem follow_split_descend (hroot : ¬ ['/'] <+: root.render.toList) (hn : names ≠ [])
    (hp : ∀ name ∈ names, '/' ∉ name.toList) (links : ℕ) :
    follow top links [] (Path.split (root.descend names).render) =
      follow top links [] (Path.split root.render ++ names) := by
  rw [Path.render_descend root hn]
  by_cases hr : root.names = []
  · have ha := Path.anchor_of_names_eq_nil hroot hr
    have hdot : Path.split "." = ["."] := Path.split_of_not_mem (by decide)
    rw [Path.lead_of_here ha hr, Path.render_of_here ha hr, String.empty_append,
      Path.split_intercalate hn hp, hdot]
    exact (follow_congr links (advance_idle (by decide))).symm
  · rw [Path.lead_of_names hr, Path.split_append, Path.split_intercalate hn hp]

/-- An extended path starts with no slash either. -/
theorem not_slash_isPrefix_descend (hroot : ¬ ['/'] <+: root.render.toList) (hne : root.render ≠ "")
    (hn : names ≠ []) (hp : ∀ name ∈ names, isProperName name = true) :
    ¬ ['/'] <+: (root.descend names).render.toList := by
  rw [Path.render_descend root hn]
  by_cases hr : root.names = []
  · have ha := Path.anchor_of_names_eq_nil hroot hr
    obtain ⟨name, rest, rfl⟩ := List.exists_cons_of_ne_nil hn
    have hname := hp name List.mem_cons_self
    have hfirst : ¬ ['/'] <+: name.toList := fun hpre =>
      notSlash_of_isProperName hname (hpre.subset (List.mem_singleton_self '/'))
    have hempty : name ≠ "" := by
      rintro rfl
      exact absurd hname (by decide)
    rw [Path.lead_of_here ha hr, String.empty_append]
    cases rest with
    | nil => rwa [String.intercalate_singleton]
    | cons next rest =>
      rw [String.intercalate_cons_of_ne_nil (List.cons_ne_nil next rest), String.append_assoc]
      exact not_slash_isPrefix_append hempty hfirst
  · rw [Path.lead_of_names hr, String.append_assoc]
    exact not_slash_isPrefix_append hne hroot

/-- The path of a folder, extended by the names that go down to a regular file, is followed to the file. -/
theorem follow_of_file (ht : top.isWellFormed = true)
    (hroot : top.resolve root.render = .ok (.folder trail entries))
    (hd : Descends entries dirs inner) {bytes : List UInt8} (hm : (name, .file bytes) ∈ inner) :
    ¬ ['/'] <+: (root.descend (dirs ++ [name])).render.toList ∧
      follow top linkBudget [] (Path.split (root.descend (dirs ++ [name])).render) = .ok (.file bytes) := by
  have he : entries ≠ [] := by
    rintro rfl
    cases hd with
    | here => cases hm
    | into entry _ => cases entry
  have hslash := not_slash_of_resolve hroot he
  obtain ⟨-, hcur, left, hgo⟩ := follow_append_of_resolve ht hroot he
  have hw := isWellFormed_of_resolve ht hroot
  have hinner := hd.isWellFormed hw
  have hnames := hd.isProperName_append hw hm
  have hslashes := fun n hn => notSlash_of_isProperName (hnames n hn)
  refine ⟨not_slash_isPrefix_descend hslash (resolve_eq_ok hroot).1 (by simp) hnames, ?_⟩
  obtain ⟨last, hlast, hdown⟩ := follow_descends hd hcur.symm hw left [name]
  rw [follow_split_descend hslash (by simp) hslashes, hgo, hdown, follow,
    advance_of_mem (hlast ▸ hinner) (hlast ▸ hm)]
  rfl

/-- The name of a regular file at the top leads to its bytes. -/
theorem readFile_of_mem (ht : top.isWellFormed = true) {bytes : List UInt8} (hm : (name, .file bytes) ∈ top) :
    top.readFile name = .ok bytes := by
  have hproper := isProperName_of_mem ht hm
  have hslash := notSlash_of_isProperName hproper
  have hnul := notNul_of_isProperName hproper
  simp only [isProperName, Path.isIdle, isLongName, Bool.and_eq_true, Bool.not_eq_true', Bool.or_eq_false_iff,
    decide_eq_false_iff_not] at hproper
  have hlong : name.utf8ByteSize ≤ longestPath := (Nat.le_of_not_lt hproper.2).trans (by decide)
  have habs : ¬ ['/'] <+: name.toList := fun h => hslash (h.subset (List.mem_singleton_self _))
  have hfollow : top.resolve name = top.follow linkBudget [] [name] := by
    rw [resolve_eq_follow (by simpa using hnul) hlong (by simpa using hproper.1.1.1.1.1) (by simpa using habs),
      Path.split_of_not_mem hslash]
  have htop : (current top []).isWellFormed = true := ht
  rw [readFile, hfollow, follow, advance_of_mem htop hm]
  rfl

/-- **A regular file below a folder is no folder.**  The path of the folder, extended by the names that
go down to the file, leads to the file itself or, if it is too long to be followed, nowhere. -/
theorem isFolder_of_file (ht : top.isWellFormed = true)
    (hroot : top.resolve root.render = .ok (.folder trail entries))
    (hd : Descends entries dirs inner) {bytes : List UInt8} (hm : (name, .file bytes) ∈ inner) :
    top.isFolder (root.descend (dirs ++ [name])).render = false := by
  obtain ⟨habs, hfile⟩ := follow_of_file ht hroot hd hm
  rw [Bool.eq_false_iff]
  intro hfolder
  obtain ⟨trail', entries', hres⟩ := resolve_of_isFolder hfolder
  rw [follow_of_resolve hres habs] at hfile
  cases hfile

end SourceWatch.Folder
