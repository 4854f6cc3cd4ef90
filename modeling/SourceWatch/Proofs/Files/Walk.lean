import SourceWatch.Files.Walk
import SourceWatch.Proofs.Files.Resolve
import Mathlib.Data.List.Nodup

/-!
# What a walk lists

A walk lists exactly the selected files below its root: those that are reached by going down from folder
to folder, through no link and no ignored folder, and that are no folders themselves, not even through
links.  It lists each of them once, a folder's files before anything below the folder, and otherwise in
the order of the entries.

Main definitions:

* `Walker.IsListed`: the files that a walk is to list;
* `Folder.Precedes`: the order of a walk;
* `Walker.Enumerates`: a list has all files that it is to have, once each, in the order of a walk.

Main statement: `Walker.traverseNamed_enumerates`.
-/

namespace SourceWatch

open Text

/-! ### The order of a walk -/

namespace Folder

/-- The order in which a walk of a folder comes to places below it, each given by the names that lead to
it. -/
inductive Precedes : Folder → List String → List String → Prop
  /-- Files of the folder come in the order of the entries. -/
  | files {folder : Folder} {a b : String} (order : [a, b].Sublist (folder.map (·.1))) :
      Precedes folder [a] [b]
  /-- Files of the folder come before everything that its subfolders hold. -/
  | filesFirst {folder : Folder} {a dir name : String} {names : List String} :
      Precedes folder [a] (dir :: name :: names)
  /-- Subfolders come in the order of the entries, each with all that it holds. -/
  | subfolders {folder : Folder} {a b x y : String} {xs ys : List String}
      (order : [a, b].Sublist (folder.map (·.1))) :
      Precedes folder (a :: x :: xs) (b :: y :: ys)
  /-- Within a subfolder the order is the subfolder's. -/
  | within {folder inner : Folder} {dir : String} {xs ys : List String}
      (entry : (dir, .folder inner) ∈ folder) (below : Precedes inner xs ys) :
      Precedes folder (dir :: xs) (dir :: ys)

variable {folder : Folder} {xs ys : List String}

theorem Precedes.cons (h : Precedes folder xs ys) (entry : String × Node) :
    Precedes (entry :: folder) xs ys := by
  cases h with
  | files order => exact .files (order.cons entry.1)
  | filesFirst => exact .filesFirst
  | subfolders order => exact .subfolders (order.cons entry.1)
  | within hm below => exact .within (List.mem_cons_of_mem entry hm) below

/-- No place comes before itself. -/
theorem Precedes.ne (h : Precedes folder xs ys) (hw : folder.isWellFormed = true) : xs ≠ ys := by
  have hdistinct : ∀ {folder : Folder} {a b : String}, folder.isWellFormed = true →
      [a, b].Sublist (folder.map (·.1)) → a ≠ b := by
    intro folder a b hw order
    have hn := order.nodup (nodup_names hw)
    simpa using hn
  induction h with
  | files order =>
    intro he
    exact hdistinct hw order (List.cons.inj he).1
  | filesFirst =>
    intro he
    exact absurd (List.cons.inj he).2 (List.cons_ne_nil _ _).symm
  | subfolders order =>
    intro he
    exact hdistinct hw order (List.cons.inj he).1
  | within entry _ ih =>
    intro he
    exact ih (isWellFormed_of_mem hw entry) (List.cons.inj he).2

/-- One path comes before another in the walk of a folder that is shown as `shown`. -/
def Before (shown : Path) (folder : Folder) (p q : Path) : Prop :=
  ∃ xs ys, p = shown.descend xs ∧ q = shown.descend ys ∧ Precedes folder xs ys

theorem Before.cons {shown p q : Path} (h : Before shown folder p q) (entry : String × Node) :
    Before shown (entry :: folder) p q := by
  obtain ⟨xs, ys, hp, hq, hb⟩ := h
  exact ⟨xs, ys, hp, hq, hb.cons entry⟩

theorem Before.within {shown p q : Path} {dir : String} {inner : Folder}
    (h : Before (shown.child dir) inner p q) (hm : (dir, .folder inner) ∈ folder) :
    Before shown folder p q := by
  obtain ⟨xs, ys, hp, hq, hb⟩ := h
  rw [Path.descend_child] at hp hq
  exact ⟨dir :: xs, dir :: ys, hp, hq, .within hm hb⟩

end Folder

namespace Walker

open Folder

variable {w : Walker} {top folder : Folder} {shown p : Path}

/-! ### One folder -/

theorem mem_filesIn :
    p ∈ w.filesIn top shown folder ↔ ∃ name node, (name, node) ∈ folder ∧
      isFile top shown (name, node) = true ∧ w.selectsName name = true ∧ p = shown.child name := by
  simp only [filesIn, List.mem_map, List.mem_filter, Bool.and_eq_true, Prod.exists]
  constructor
  · rintro ⟨name, node, ⟨hm, hf, hs⟩, rfl⟩
    exact ⟨name, node, hm, hf, hs, rfl⟩
  · rintro ⟨name, node, hm, hf, hs, rfl⟩
    exact ⟨name, node, ⟨hm, hf, hs⟩, rfl⟩

/-- The selected files of one folder come in the order of the entries. -/
theorem pairwise_filesIn (w : Walker) (top : Folder) (shown : Path) (folder : Folder) :
    (w.filesIn top shown folder).Pairwise (Before shown folder) := by
  induction folder with
  | nil => exact List.Pairwise.nil
  | cons entry folder ih =>
    have hrest : (w.filesIn top shown folder).Pairwise (Before shown (entry :: folder)) :=
      ih.imp fun h => h.cons entry
    rw [filesIn, List.filter_cons]
    split
    · rw [List.map_cons, List.pairwise_cons]
      refine ⟨fun q hq => ?_, hrest⟩
      obtain ⟨name, node, hm, -, -, rfl⟩ := mem_filesIn.mp hq
      have hname : name ∈ folder.map (·.1) := List.mem_map_of_mem hm
      exact ⟨[entry.1], [name], rfl, rfl,
        .files ((List.singleton_sublist.mpr hname).cons_cons entry.1)⟩
    · exact hrest

/-! ### The folders below -/

/-- What a walk lists in a subfolder that is not ignored. -/
def listing (w : Walker) (top : Folder) (shown : Path) (folder : Folder) : List Path :=
  w.filesIn top shown folder ++ w.filesBelow top shown folder

theorem filesBelow_folder (w : Walker) (top : Folder) (shown : Path) (dir : String)
    (inner rest : Folder) :
    w.filesBelow top shown ((dir, .folder inner) :: rest) =
      (if dir ∈ w.ignored then [] else w.listing top (shown.child dir) inner) ++
        w.filesBelow top shown rest := by
  simp [filesBelow, listing]

/-- What the subfolders hold is what each of them holds, the ignored ones left out. -/
theorem mem_filesBelow :
    p ∈ w.filesBelow top shown folder ↔ ∃ dir inner, (dir, .folder inner) ∈ folder ∧
      dir ∉ w.ignored ∧ p ∈ w.listing top (shown.child dir) inner := by
  induction folder with
  | nil => simp [filesBelow]
  | cons entry folder ih =>
    obtain ⟨name, node⟩ := entry
    cases node with
    | file bytes => simp [filesBelow, ih]
    | link target => simp [filesBelow, ih]
    | folder inner =>
      rw [filesBelow_folder, List.mem_append, ih]
      constructor
      · rintro (hp | ⟨dir, next, hm, hi, hp⟩)
        · split at hp
          · cases hp
          · rename_i hi
            exact ⟨name, inner, List.mem_cons_self, hi, hp⟩
        · exact ⟨dir, next, List.mem_cons_of_mem _ hm, hi, hp⟩
      · rintro ⟨dir, next, hm, hi, hp⟩
        rcases List.mem_cons.mp hm with he | hm
        · cases he
          exact .inl (by rwa [if_neg hi])
        · exact .inr ⟨dir, next, hm, hi, hp⟩

theorem sizeOf_lt_of_mem {dir : String} {inner : Folder} (h : (dir, .folder inner) ∈ folder) :
    SizeOf.sizeOf inner < SizeOf.sizeOf folder := by
  have := List.sizeOf_lt_of_mem h
  simp only [Prod.mk.sizeOf_spec, Node.folder.sizeOf_spec] at this
  omega

/-- Whatever a walk lists is reached by going down, through no ignored folder, to a selected file. -/
theorem exists_of_mem_listing {folder : Folder} {shown p : Path}
    (h : p ∈ w.listing top shown folder) :
    ∃ dirs inner name node, Descends folder dirs inner ∧ (∀ dir ∈ dirs, dir ∉ w.ignored) ∧
      (name, node) ∈ inner ∧ isFile top (shown.descend dirs) (name, node) = true ∧
      w.selectsName name = true ∧ p = shown.descend (dirs ++ [name]) := by
  rcases List.mem_append.mp h with hp | hp
  · obtain ⟨name, node, hm, hf, hs, rfl⟩ := mem_filesIn.mp hp
    refine ⟨[], folder, name, node, .here folder, by simp, hm, ?_, hs, rfl⟩
    rwa [Path.descend_nil]
  · obtain ⟨dir, next, entry, hi, hp⟩ := mem_filesBelow.mp hp
    have hsmaller := sizeOf_lt_of_mem entry
    obtain ⟨dirs, inner, name, node, hd, his, hm, hf, hs, rfl⟩ := exists_of_mem_listing hp
    rw [Path.descend_child] at hf ⊢
    refine ⟨dir :: dirs, inner, name, node, .into entry hd, ?_, hm, hf, hs, rfl⟩
    exact List.forall_mem_cons.mpr ⟨hi, his⟩
termination_by SizeOf.sizeOf folder

/-- Whatever is reached by going down, through no ignored folder, to a selected file is listed. -/
theorem mem_listing_of_descends {dirs : List String} {inner : Folder} {name : String} {node : Node}
    (hd : Descends folder dirs inner) (hi : ∀ dir ∈ dirs, dir ∉ w.ignored)
    (hm : (name, node) ∈ inner) (hf : isFile top (shown.descend dirs) (name, node) = true)
    (hs : w.selectsName name = true) :
    shown.descend (dirs ++ [name]) ∈ w.listing top shown folder := by
  induction hd generalizing shown with
  | here =>
    rw [Path.descend_nil] at hf
    exact List.mem_append_left _ (mem_filesIn.mpr ⟨name, node, hm, hf, hs, rfl⟩)
  | @into folder next last dir names entry below ih =>
    rw [List.forall_mem_cons] at hi
    rw [← Path.descend_child] at hf
    rw [List.cons_append, ← Path.descend_child]
    exact List.mem_append_right _ (mem_filesBelow.mpr ⟨dir, next, entry, hi.1, ih hi.2 hm hf⟩)

/-! ### The order -/

/-- The files that subfolders hold are given by at least two names. -/
theorem exists_names_of_mem_filesBelow (h : p ∈ w.filesBelow top shown folder) :
    ∃ dir name names, dir ∈ folder.map (·.1) ∧ p = shown.descend (dir :: name :: names) := by
  obtain ⟨dir, inner, hm, _, hp⟩ := mem_filesBelow.mp h
  obtain ⟨dirs, _, name, _, _, _, _, _, _, rfl⟩ := exists_of_mem_listing hp
  obtain ⟨first, rest, hsplit⟩ : ∃ first rest, dirs ++ [name] = first :: rest :=
    List.exists_cons_of_ne_nil (by simp)
  exact ⟨dir, first, rest, List.mem_map_of_mem hm, by rw [Path.descend_child, hsplit]⟩

/-- The files of a folder come before those that its subfolders hold. -/
theorem pairwise_listing_of_below
    (h : (w.filesBelow top shown folder).Pairwise (Before shown folder)) :
    (w.listing top shown folder).Pairwise (Before shown folder) := by
  rw [listing, List.pairwise_append]
  refine ⟨pairwise_filesIn w top shown folder, h, fun q hq r hr => ?_⟩
  obtain ⟨name, _, _, _, _, rfl⟩ := mem_filesIn.mp hq
  obtain ⟨dir, next, names, _, rfl⟩ := exists_names_of_mem_filesBelow hr
  exact ⟨[name], dir :: next :: names, rfl, rfl, .filesFirst⟩

theorem pairwise_filesBelow (w : Walker) (top : Folder) (shown : Path) (folder : Folder) :
    (w.filesBelow top shown folder).Pairwise (Before shown folder) := by
  induction shown, folder using filesBelow.induct w top with
  | case1 shown =>
    rw [filesBelow]
    exact List.Pairwise.nil
  | case2 shown dir inner rest ihInner ihRest =>
    rw [filesBelow_folder, List.pairwise_append]
    refine ⟨?_, ihRest.imp fun h => h.cons _, fun q hq r hr => ?_⟩
    · split
      · exact List.Pairwise.nil
      · exact (pairwise_listing_of_below ihInner).imp fun h => h.within List.mem_cons_self
    · -- everything within this subfolder comes before what the later ones hold
      have hq' : q ∈ w.listing top (shown.child dir) inner := by
        split at hq
        · cases hq
        · exact hq
      obtain ⟨dirs, _, name, _, _, _, _, _, _, rfl⟩ := exists_of_mem_listing hq'
      obtain ⟨next, x, xs, hnext, rfl⟩ := exists_names_of_mem_filesBelow hr
      obtain ⟨y, ys, hsplit⟩ : ∃ y ys, dirs ++ [name] = y :: ys :=
        List.exists_cons_of_ne_nil (by simp)
      refine ⟨dir :: y :: ys, next :: x :: xs, by rw [Path.descend_child, hsplit], rfl, ?_⟩
      exact .subfolders ((List.singleton_sublist.mpr hnext).cons_cons dir)
  | case3 shown name bytes rest ih
  | case4 shown name target rest ih =>
    rw [filesBelow]
    exact ih.imp fun h => h.cons _

/-- **A walk lists its files in order.** -/
theorem pairwise_listing (w : Walker) (top : Folder) (shown : Path) (folder : Folder) :
    (w.listing top shown folder).Pairwise (Before shown folder) :=
  pairwise_listing_of_below (pairwise_filesBelow w top shown folder)

/-! ### The selection -/

/-- A name is selected if its suffix in lower case is the normal form of a configured extension. -/
theorem selectsName_ofLists (ignored extensions : List String) (name : String) :
    (ofLists ignored extensions).selectsName name = true ↔
      ∃ e ∈ extensions, normalExtension? e = some (String.ofList (lower (extensionOf name.toList))) := by
  simp only [selectsName, ofLists, List.contains_eq_mem, decide_eq_true_eq, List.mem_mergeSort,
    List.mem_eraseDups, List.mem_filterMap]

variable {entries : Folder} {trail : Trail} {root : Path} {dirs : List String} {inner : Folder}
  {name : String} {node : Node}

/-- An entry counts as a file if it is no folder, and its path leads to none. -/
theorem isFile_iff (ht : top.isWellFormed = true)
    (hroot : top.resolve root.render = .ok (.folder trail entries))
    (hd : Descends entries dirs inner) (hm : (name, node) ∈ inner) :
    isFile top (root.descend dirs) (name, node) = true ↔
      (∀ g, node ≠ .folder g) ∧ top.isFolder (root.descend (dirs ++ [name])).render = false := by
  cases node with
  | file bytes => simp [isFile, isFolder_of_file ht hroot hd hm]
  | folder g => simp [isFile]
  | link target => simp [isFile, Path.child_descend]

/-! ### The main theorem -/

/-- The file `name` in the folder that `dirs` lead to is to be listed by a walk of the folder `entries`
that is shown as `root`. -/
structure IsListed (ignored extensions : List String) (top entries : Folder) (root : Path)
    (dirs : List String) (name : String) : Prop where
  /-- The names go down from folder to folder, and the last folder has an entry that is none. -/
  isEntry : ∃ inner node, Descends entries dirs inner ∧ (name, node) ∈ inner ∧
    ∀ g, node ≠ .folder g
  notIgnored : ∀ dir ∈ dirs, dir ∉ ignored
  /-- The entry is no folder through links either. -/
  notFolder : top.isFolder (root.descend (dirs ++ [name])).render = false
  selected : ∃ e ∈ extensions,
    normalExtension? e = some (String.ofList (lower (extensionOf name.toList)))

/-- A list of files is what a walk of the folder `entries` that is shown as `root` is to yield. -/
structure Enumerates (ignored extensions : List String) (top entries : Folder) (root : Path)
    (files : List Path) : Prop where
  mem_iff : ∀ p, p ∈ files ↔ ∃ dirs name, p = root.descend (dirs ++ [name]) ∧
    IsListed ignored extensions top entries root dirs name
  /-- No two files have the same path. -/
  nodup : (files.map Path.render).Nodup
  ordered : files.Pairwise (Before root entries)

/-- Files in the order of a walk have different paths. -/
theorem nodup_render_listing (he : entries.isWellFormed = true) (w : Walker) (top : Folder)
    (root : Path) : ((w.listing top root entries).map Path.render).Nodup := by
  rw [List.Nodup, List.pairwise_map]
  refine (pairwise_listing w top root entries).imp_of_mem fun {p q} hp hq hb hpq => ?_
  obtain ⟨xs, ys, rfl, rfl, hxy⟩ := hb
  -- the names of both are proper, so the texts of the paths tell them apart
  have hproper : ∀ {names : List String}, root.descend names ∈ w.listing top root entries →
      names ≠ [] ∧ ∀ name ∈ names, '/' ∉ name.toList := by
    intro names hmem
    obtain ⟨dirs, inner, name, node, hd, _, hm, _, _, hpath⟩ := exists_of_mem_listing hmem
    rw [Path.descend_injective root hpath]
    exact ⟨by simp, fun n hn => notSlash_of_isProperName (hd.isProperName_append he hm n hn)⟩
  exact hxy.ne he (Path.render_descend_injective root (hproper hp).1 (hproper hq).1
    (hproper hp).2 (hproper hq).2 hpq)

theorem traverse_of_folder (w : Walker)
    (hroot : top.resolve root.render = .ok (.folder trail entries)) :
    w.traverse top root = ⟨[], w.listing top root entries⟩ := by
  rw [traverse, hroot]
  rfl

/-- A walk of a tree that has one file and nothing else lists the file, if it is selected. -/
theorem traverse_singleFile (w : Walker) {name : String} {bytes : List UInt8}
    (hroot : Folder.resolve [(name, .file bytes)] root.render = .ok (.folder trail [(name, .file bytes)]))
    (hselects : w.selectsName name = true) :
    w.traverse [(name, .file bytes)] root = ⟨[], [root.child name]⟩ := by
  rw [traverse_of_folder w hroot]
  simp [listing, filesIn, filesBelow, isFile, hselects]

theorem files_traverse_of_not_isFolder (w : Walker) (h : top.isFolder root.render = false) :
    (w.traverse top root).files = [] := by
  unfold isFolder at h
  rw [traverse]
  split
  · rename_i hres
    rw [hres] at h
    cases h
  · rfl
  · rfl

/-- A walk lists no file twice. -/
theorem nodup_render_traverse (ht : top.isWellFormed = true) (w : Walker) (root : Path) :
    ((w.traverse top root).files.map Path.render).Nodup := by
  cases hf : top.isFolder root.render with
  | false =>
    rw [files_traverse_of_not_isFolder w hf]
    exact List.nodup_nil
  | true =>
    obtain ⟨trail, entries, hroot⟩ := resolve_of_isFolder hf
    rw [traverse_of_folder w hroot]
    exact nodup_render_listing (isWellFormed_of_resolve ht hroot) w top root

/-- What a walk lists in the folder that its root leads to is what it is to list. -/
theorem enumerates_listing (ht : top.isWellFormed = true)
    (hroot : top.resolve root.render = .ok (.folder trail entries))
    (ignored extensions : List String) :
    Enumerates ignored extensions top entries root
      ((ofLists ignored extensions).listing top root entries) where
  mem_iff p := by
    constructor
    · intro hp
      obtain ⟨dirs, inner, name, node, hd, hi, hm, hf, hs, rfl⟩ := exists_of_mem_listing hp
      obtain ⟨hnode, hfolder⟩ := (isFile_iff ht hroot hd hm).mp hf
      exact ⟨dirs, name, rfl, ⟨⟨inner, node, hd, hm, hnode⟩, hi, hfolder,
        (selectsName_ofLists ignored extensions name).mp hs⟩⟩
    · rintro ⟨dirs, name, rfl, ⟨⟨inner, node, hd, hm, hnode⟩, hi, hfolder, hs⟩⟩
      exact mem_listing_of_descends hd hi hm ((isFile_iff ht hroot hd hm).mpr ⟨hnode, hfolder⟩)
        ((selectsName_ofLists ignored extensions name).mpr hs)
  nodup := nodup_render_listing (isWellFormed_of_resolve ht hroot) _ top root
  ordered := pairwise_listing _ top root entries

/-- **Walker exactness.**  In a well-formed tree a walk always ends.  It lists nothing if its root leads to
no folder, and otherwise exactly the files that it is to list below that folder, once each and in order;
the name of the root itself may be an ignored one. -/
theorem traverseNamed_enumerates (ht : top.isWellFormed = true) {root : String}
    (hroot : root.contains '\x00' = false) (ignored extensions : List String) :
    ∃ walk, (ofLists ignored extensions).traverseNamed top root = .ok walk ∧
      (top.isFolder (Path.parse root).render = false → walk.files = []) ∧
      ∀ trail entries, top.resolve (Path.parse root).render = .ok (.folder trail entries) →
        Enumerates ignored extensions top entries (Path.parse root) walk.files := by
  have hnul : ¬ root.contains '\x00' = true := by rw [hroot]; exact Bool.false_ne_true
  refine ⟨_, if_neg hnul, files_traverse_of_not_isFolder _, fun trail entries hres => ?_⟩
  rw [traverse_of_folder _ hres]
  exact enumerates_listing ht hres ignored extensions

/-- A tree with a link to a file, a link to a folder and a broken link. -/
def linkedTree : Folder :=
  [("a.py", .file []), ("b.py", .link "a.py"), ("c.py", .link "d"), ("d", .folder [("e.py", .link "f")])]

theorem traverseNamed_enumerates_linkedTree :
    ∃ walk, (ofLists ["d"] ["py"]).traverseNamed [("d", .folder linkedTree)] "d" = .ok walk ∧
      Enumerates ["d"] ["py"] [("d", .folder linkedTree)] linkedTree (Path.parse "d") walk.files := by
  have hw : isWellFormed [("d", .folder linkedTree)] = true := by
    simp [isWellFormed, linkedTree, isProperName, Path.isIdle, isLongName, longestName]
    decide
  have hname : (Path.parse "d").render = "d" := by decide +kernel
  have hsplit : Path.split "d" = ["d"] := by decide +kernel
  have hroot : resolve [("d", .folder linkedTree)] (Path.parse "d").render =
      .ok (.folder [("d", linkedTree)] linkedTree) := by
    rw [hname, resolve_eq_follow (by simp) (by decide +kernel) (by simp) (by simp), hsplit, follow,
      advance.eq_def]
    rfl
  obtain ⟨walk, hwalk, -, hfiles⟩ :=
    @traverseNamed_enumerates [("d", .folder linkedTree)] hw "d" (by simp) ["d"] ["py"]
  exact ⟨walk, hwalk, hfiles _ _ hroot⟩

end Walker

end SourceWatch
