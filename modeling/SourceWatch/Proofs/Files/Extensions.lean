import SourceWatch.Proofs.Files.Walk
import SourceWatch.Proofs.Text.Capital

/-!
# The files that an extension selects

A configured extension is kept as a whole, but of a file name only what stands from the last dot on is compared
with it.  So an extension without a further dot selects every file whose name ends in it.  Whether the files of
any other extension are selected is up to the part of it from its last dot on, which must be configured too.

Main definitions:

* `IsPlain`: an extension without a further dot;
* `EndsIn`: the name of a file ends in an extension, whatever the case of its ASCII letters;
* `Walker.Reads`: a file is selected by itself and by walks;
* `Walker.SelectsFiles`: which files of a configured extension are selected.

Main statement: `Walker.selectsFiles_of_mem`.
-/

namespace SourceWatch

open Text

/-- An extension in normal form that has no dot but the first. -/
def IsPlain (extension : String) : Prop :=
  ∃ tail, extension.toList = '.' :: tail ∧ tail ≠ [] ∧ '.' ∉ tail

/-- The name of a file is a stem that is followed by an extension, whatever the case of its ASCII letters. -/
structure EndsIn (extension file : String) : Prop where
  parts : ∃ stem ending, file.toList = stem ++ ending ∧ stem ≠ [] ∧
    ending.map Char.toLower = extension.toList
  isName : '/' ∉ file.toList

/-- What an extension is from its last dot on is configured by itself. -/
def LastPartConfigured (extensions : List String) (extension : String) : Prop :=
  ∃ part, IsPlain part ∧ part.toList <:+ extension.toList ∧
    ∃ e ∈ extensions, normalExtension? e = some part

/-- What stands before the last name of a path. -/
def IsLead (lead : String) : Prop :=
  lead = "" ∨ ∃ dir, lead = dir ++ "/"

namespace Walker

/-- A walk of the folder `entries` comes to the file `name` in the folder that `dirs` lead to. -/
structure ComesTo (ignored : List String) (top entries : Folder) (root : Path) (dirs : List String)
    (name : String) : Prop where
  isEntry : ∃ inner node, Folder.Descends entries dirs inner ∧ (name, node) ∈ inner ∧ ∀ g, node ≠ .folder g
  notIgnored : ∀ dir ∈ dirs, dir ∉ ignored
  notFolder : top.isFolder (root.descend (dirs ++ [name])).render = false

/-- A file is scannable wherever it is, and every walk that comes to it lists it. -/
structure Reads (ignored extensions : List String) (file : String) : Prop where
  scannable : ∀ lead, IsLead lead → (ofLists ignored extensions).selects (lead ++ file) = true
  listed : ∀ top root trail entries dirs, top.isWellFormed = true →
    top.resolve root.render = .ok (.folder trail entries) → ComesTo ignored top entries root dirs file →
    root.descend (dirs ++ [file]) ∈ ((ofLists ignored extensions).traverse top root).files

/-- **The files that a configured extension selects.** -/
structure SelectsFiles (ignored extensions : List String) (extension : String) : Prop where
  /-- An extension without a further dot selects all its files. -/
  plain : IsPlain extension → ∀ file, EndsIn extension file → Reads ignored extensions file
  /-- In general its files are scannable if the last part of the extension is configured, and only then. -/
  scannable_iff : ∀ file, EndsIn extension file → ∀ lead, IsLead lead →
    ((ofLists ignored extensions).selects (lead ++ file) = true ↔ LastPartConfigured extensions extension)
  /-- The same holds for the walks that come to them. -/
  listed_iff : ∀ file, EndsIn extension file → ∀ top root trail entries dirs, top.isWellFormed = true →
    top.resolve root.render = .ok (.folder trail entries) → ComesTo ignored top entries root dirs file →
    (root.descend (dirs ++ [file]) ∈ ((ofLists ignored extensions).traverse top root).files ↔
      LastPartConfigured extensions extension)

end Walker

variable {ignored extensions : List String} {e extension file lead name : String} {front tail stem : List Char}

/-! ### The last dot -/

theorem exists_last_dot {cs : List Char} (h : '.' ∈ cs) : ∃ front tail, cs = front ++ '.' :: tail ∧ '.' ∉ tail := by
  obtain ⟨tail, front, hcs, htail⟩ := List.eq_append_cons_of_mem (List.mem_reverse.mpr h)
  refine ⟨front.reverse, tail.reverse, ?_, by simpa using htail⟩
  rw [← List.reverse_reverse cs, hcs]
  simp

/-- Searching backwards for a dot finds the last one. -/
theorem behind_last_dot (htail : '.' ∉ tail) (front : List Char) :
    ((front ++ '.' :: tail).reverse.takeWhile (· ≠ '.')).reverse = tail := by
  have hall : ∀ c ∈ tail.reverse, decide (c ≠ '.') = true := by
    intro c hc
    have hne : c ≠ '.' := fun he => htail (List.mem_reverse.mp (he ▸ hc))
    simpa using hne
  rw [List.reverse_append, List.reverse_cons, List.append_assoc, List.takeWhile_append_of_pos hall]
  simp

/-- The extension of a name is what it is from its last dot on. -/
theorem extensionOf_append (hstem : stem ≠ []) (htail : '.' ∉ tail) (front : List Char) :
    extensionOf (stem ++ (front ++ '.' :: tail)) = if tail = [] then [] else '.' :: tail := by
  have hlength : 0 < stem.length := List.length_pos_iff.mpr hstem
  have hlong : ¬ (stem ++ (front ++ '.' :: tail)).length ≤ tail.length + 1 := by
    simp only [List.length_append, List.length_cons]
    omega
  rw [extensionOf, ← List.append_assoc, behind_last_dot htail, List.append_assoc]
  simp only [hlong, or_false]

/-! ### Extensions in normal form -/

/-- An extension in normal form starts with a dot and has no capitals. -/
theorem normalExtension?_eq_some (h : normalExtension? e = some extension) :
    (∃ cs, extension.toList = '.' :: cs) ∧ ∀ c ∈ extension.toList, isCapital c.toNat = false := by
  have hdot : isCapital '.'.toNat = false := by decide +kernel
  have hlower : ∀ c ∈ lower (strip e.toList), isCapital c.toNat = false := fun _ => not_isCapital_of_mem_lower
  unfold normalExtension? at h
  generalize lower (strip e.toList) = cs at h hlower
  split at h
  · cases h
  · next cs =>
    cases h
    rw [String.toList_ofList]
    exact ⟨⟨cs, rfl⟩, hlower⟩
  · cases h
    rw [String.toList_ofList]
    exact ⟨⟨cs, rfl⟩, List.forall_mem_cons.mpr ⟨hdot, hlower⟩⟩

theorem isPlain_ofList (hne : tail ≠ []) (htail : '.' ∉ tail) : IsPlain (String.ofList ('.' :: tail)) :=
  ⟨tail, String.toList_ofList, hne, htail⟩

/-- The last part of an extension is told by its last dot. -/
theorem lastPartConfigured_iff (htail : '.' ∉ tail) (hextension : extension.toList = front ++ '.' :: tail) :
    LastPartConfigured extensions extension ↔
      tail ≠ [] ∧ ∃ e ∈ extensions, normalExtension? e = some (String.ofList ('.' :: tail)) := by
  constructor
  · rintro ⟨part, ⟨tail', hpart, hne, htail'⟩, ⟨front', hsuffix⟩, hconfigured⟩
    have hsame : tail' = tail := by
      rw [← behind_last_dot htail' front', ← hpart, hsuffix, hextension, behind_last_dot htail]
    subst hsame
    refine ⟨hne, ?_⟩
    rwa [← hpart, String.ofList_toList]
  · rintro ⟨hne, hconfigured⟩
    refine ⟨_, isPlain_ofList hne htail, ?_, hconfigured⟩
    rw [String.toList_ofList, hextension]
    exact List.suffix_append front _

theorem lastPartConfigured_of_isPlain (he : e ∈ extensions) (hn : normalExtension? e = some extension)
    (hplain : IsPlain extension) : LastPartConfigured extensions extension :=
  ⟨extension, hplain, List.suffix_refl _, e, he, hn⟩

/-! ### Names that end in an extension -/

theorem eq_dot_of_toLower {c : Char} (h : c.toLower = '.') : c = '.' := by
  unfold Char.toLower at h
  split at h
  · next hupper =>
    have hfirst : 65 ≤ c.val.toNat := UInt32.le_iff_toNat_le.mp hupper.1
    have hlast : c.val.toNat ≤ 90 := UInt32.le_iff_toNat_le.mp hupper.2
    have hval : (c.val.toNat + 32) % 2 ^ 32 = 46 := by
      rw [← show (c.val + 32).toNat = (c.val.toNat + 32) % 2 ^ 32 from UInt32.toNat_add _ _]
      exact congrArg (fun c : Char => c.val.toNat) h
    omega
  · exact h

/-- The last dot of an extension is where it was, whatever the case of the letters. -/
theorem exists_of_map_toLower {ending : List Char} (h : ending.map Char.toLower = front ++ '.' :: tail)
    (htail : '.' ∉ tail) :
    ∃ front' tail', ending = front' ++ '.' :: tail' ∧ '.' ∉ tail' ∧ tail'.map Char.toLower = tail := by
  obtain ⟨front', rest, rfl, -, hrest⟩ := List.map_eq_append_iff.mp h
  obtain ⟨c, tail', rfl, hc, rfl⟩ := List.map_eq_cons_iff.mp hrest
  refine ⟨front', tail', by rw [eq_dot_of_toLower hc], fun hdot => htail ?_, rfl⟩
  exact List.mem_map_of_mem hdot

theorem EndsIn.length (h : EndsIn extension file) (hdot : '.' ∈ extension.toList) : 2 ≤ file.toList.length := by
  obtain ⟨stem, ending, hfile, hstem, hending⟩ := h.parts
  have hstem : 0 < stem.length := List.length_pos_iff.mpr hstem
  have hending : 0 < ending.length := by
    rw [← List.length_map (f := Char.toLower), hending]
    exact List.length_pos_of_mem hdot
  rw [hfile, List.length_append]
  omega

/-- The file name of a path is its last name. -/
theorem fileName_parse_append (hlead : IsLead lead) (hname : '/' ∉ name.toList)
    (hlong : 2 ≤ name.toList.length) : (Path.parse (lead ++ name)).fileName = name := by
  have hproper : Path.isIdle name = false := by
    rw [Path.isIdle, Bool.or_eq_false_iff, decide_eq_false_iff_not, decide_eq_false_iff_not]
    constructor
    · rintro rfl
      simp at hlong
    · rintro rfl
      simp at hlong
  obtain ⟨front, hsplit⟩ : ∃ front, Path.split (lead ++ name) = front ++ [name] := by
    rcases hlead with rfl | ⟨dir, rfl⟩
    · exact ⟨[], by rw [String.empty_append, Path.split_of_not_mem hname, List.nil_append]⟩
    · exact ⟨Path.split dir, by rw [Path.split_append, Path.split_of_not_mem hname]⟩
  rw [Path.fileName, Path.parse, hsplit, List.filter_append, List.filter_singleton, hproper]
  simp

namespace Walker

/-- **A file whose name ends in a configured extension is selected** if the last part of the extension is
configured. -/
theorem selectsName_iff (hn : normalExtension? e = some extension) (h : EndsIn extension file) :
    (ofLists ignored extensions).selectsName file = true ↔ LastPartConfigured extensions extension := by
  obtain ⟨⟨cs, hcs⟩, hsmall⟩ := normalExtension?_eq_some hn
  obtain ⟨front, tail, hextension, htail⟩ : ∃ front tail, extension.toList = front ++ '.' :: tail ∧ '.' ∉ tail :=
    exists_last_dot (hcs ▸ List.mem_cons_self)
  obtain ⟨stem, ending, hfile, hstem, hending⟩ := h.parts
  obtain ⟨front', tail', rfl, htail', hlower⟩ := exists_of_map_toLower (hextension ▸ hending) htail
  rw [selectsName_ofLists, lastPartConfigured_iff htail hextension, hfile, extensionOf_append hstem htail']
  by_cases hnil : tail' = []
  · -- a name that ends in a dot has no extension, and no configured extension is empty
    have hnone : ∀ e' : String, normalExtension? e' ≠ some (String.ofList (lower [])) := by
      intro e' he'
      obtain ⟨⟨cs', hcs'⟩, -⟩ := normalExtension?_eq_some he'
      simp [lower_eq_nil_iff.mpr] at hcs'
    rw [if_pos hnil, ← hlower, hnil]
    simp [hnone]
  · have htext : lower ('.' :: tail') = '.' :: tail := by
      have hmap : ('.' :: tail').map Char.toLower = '.' :: tail := by
        rw [List.map_cons, hlower]
        rfl
      rw [lower_eq_map_toLower, hmap]
      rw [hmap]
      exact fun c hc => hsmall c (hextension ▸ List.mem_append_right front hc)
    have hne : tail ≠ [] := by
      rw [← hlower]
      simpa using hnil
    rw [if_neg hnil, htext]
    exact (and_iff_right hne).symm

/-- A walk that comes to a file lists it if it selects the name. -/
theorem mem_files_iff_selectsName {top entries : Folder} {root : Path} {trail : Folder.Trail} {dirs : List String}
    (htop : top.isWellFormed = true) (hroot : top.resolve root.render = .ok (.folder trail entries))
    (hcomes : ComesTo ignored top entries root dirs name) :
    root.descend (dirs ++ [name]) ∈ ((ofLists ignored extensions).traverse top root).files ↔
      (ofLists ignored extensions).selectsName name = true := by
  rw [traverse_of_folder _ hroot, (enumerates_listing htop hroot ignored extensions).mem_iff, selectsName_ofLists]
  constructor
  · rintro ⟨dirs', name', hpath, hlisted⟩
    obtain ⟨rfl, hname⟩ := List.append_inj' (Path.descend_injective root hpath) rfl
    obtain rfl := List.singleton_inj.mp hname
    exact hlisted.selected
  · intro hselected
    exact ⟨dirs, name, rfl, hcomes.isEntry, hcomes.notIgnored, hcomes.notFolder, hselected⟩

/-- **Which files a configured extension selects.** -/
theorem selectsFiles_of_mem (he : e ∈ extensions) (hn : normalExtension? e = some extension)
    (ignored : List String) : SelectsFiles ignored extensions extension := by
  have hdot : '.' ∈ extension.toList := by
    obtain ⟨⟨cs, hcs⟩, -⟩ := normalExtension?_eq_some hn
    exact hcs ▸ List.mem_cons_self
  have hscannable : ∀ file, EndsIn extension file → ∀ lead, IsLead lead →
      ((ofLists ignored extensions).selects (lead ++ file) = true ↔
        LastPartConfigured extensions extension) := by
    intro file hfile lead hlead
    rw [selects, fileName_parse_append hlead hfile.isName (hfile.length hdot), selectsName_iff hn hfile]
  have hlisted : ∀ file, EndsIn extension file → ∀ top root trail entries dirs, top.isWellFormed = true →
      top.resolve root.render = .ok (.folder trail entries) → ComesTo ignored top entries root dirs file →
      (root.descend (dirs ++ [file]) ∈ ((ofLists ignored extensions).traverse top root).files ↔
        LastPartConfigured extensions extension) := by
    intro file hfile top root trail entries dirs htop hroot hcomes
    rw [mem_files_iff_selectsName htop hroot hcomes, selectsName_iff hn hfile]
  refine ⟨fun hplain file hfile => ?_, hscannable, hlisted⟩
  have hconfigured := lastPartConfigured_of_isPlain he hn hplain
  exact ⟨fun lead hlead => (hscannable file hfile lead hlead).mpr hconfigured,
    fun top root trail entries dirs htop hroot hcomes =>
      (hlisted file hfile top root trail entries dirs htop hroot hcomes).mpr hconfigured⟩

/-- An extension with blanks around it and a capital selects its files. -/
theorem selectsFiles_of_mem_padded :
    " JS " ∈ ["md", " JS "] ∧ normalExtension? " JS " = some ".js" ∧ IsPlain ".js" ∧
      EndsIn ".js" "app.min.Js" ∧ Reads [] ["md", " JS "] "app.min.Js" := by
  have hmem : " JS " ∈ ["md", " JS "] := List.mem_cons_of_mem _ List.mem_cons_self
  have hn : normalExtension? " JS " = some ".js" := by decide +kernel
  have hplain : IsPlain ".js" := ⟨['j', 's'], by simp, by simp, by simp⟩
  have hends : EndsIn ".js" "app.min.Js" :=
    ⟨⟨"app.min".toList, ".Js".toList, by simp, by simp, by simp⟩, by simp⟩
  exact ⟨hmem, hn, hplain, hends, (selectsFiles_of_mem hmem hn []).plain hplain _ hends⟩

/-- A file with the whole of a configured extension is passed over if the extension has a further dot. -/
theorem not_selects_furtherDot :
    "tar.gz" ∈ ["tar.gz"] ∧ normalExtension? "tar.gz" = some ".tar.gz" ∧ EndsIn ".tar.gz" "a.tar.gz" ∧
      (ofLists [] ["tar.gz"]).selects "a.tar.gz" = false := by
  refine ⟨List.mem_cons_self, by decide +kernel, ?_, by decide +kernel⟩
  exact ⟨⟨['a'], ".tar.gz".toList, by simp, by simp, by simp⟩, by simp⟩

end Walker

end SourceWatch
