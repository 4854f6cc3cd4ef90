import SourceWatch.Files.Path
import SourceWatch.Proofs.Text.Split

/-!
# Paths below a path

A path that is extended by names without slashes is written as a fixed lead followed by the names with
slashes between them, so the text determines the names.

Main definition: `Path.descend`, a path extended by names.

Main statements:

* `Path.split_append`: splitting a text at one of its slashes;
* `Path.split_intercalate`: joined names are found again;
* `Path.render_descend_injective`: the text of an extended path determines the names.
-/

namespace SourceWatch

open Text

namespace Path

/-! ### Splitting at slashes -/

theorem split_append (s t : String) : split (s ++ "/" ++ t) = split s ++ split t := by
  have h : (s ++ "/" ++ t).toList = s.toList ++ '/' :: t.toList := by simp
  rw [split, split, split, h, splitOn_append, List.map_append]

theorem split_of_not_mem {s : String} (h : '/' ∉ s.toList) : split s = [s] := by
  rw [split, splitOn_of_not_mem h, List.map_singleton, String.ofList_toList]

/-- Names that are joined with slashes are found again. -/
theorem split_intercalate {names : List String} (hne : names ≠ [])
    (h : ∀ name ∈ names, '/' ∉ name.toList) : split ("/".intercalate names) = names := by
  have hparts : ∀ part ∈ names.map String.toList, '/' ∉ part := by
    simpa using h
  have hslash : "/".toList = ['/'] := by simp
  rw [split, String.toList_intercalate, hslash, splitOn_intercalate (by simpa using hne) hparts, List.map_map]
  simp [Function.comp_def]

/-! ### Extended paths -/

/-- A path extended by names. -/
def descend (p : Path) (names : List String) : Path :=
  { p with names := p.names ++ names }

theorem descend_nil (p : Path) : p.descend [] = p := by
  simp [descend]

theorem descend_child (p : Path) (name : String) (names : List String) :
    (p.child name).descend names = p.descend (name :: names) := by
  simp [descend, child]

theorem child_descend (p : Path) (names : List String) (name : String) :
    (p.descend names).child name = p.descend (names ++ [name]) := by
  simp [descend, child]

theorem descend_injective (p : Path) {xs ys : List String} (h : p.descend xs = p.descend ys) :
    xs = ys := by
  simpa [descend] using h

/-- The text that stands before the names by which a path is extended. -/
def lead (p : Path) : String :=
  if p.names = [] then p.anchor.text else p.anchor.text ++ "/".intercalate p.names ++ "/"

theorem render_descend (p : Path) {names : List String} (h : names ≠ []) :
    (p.descend names).render = p.lead ++ "/".intercalate names := by
  have hall : p.names ++ names ≠ [] := by simp [h]
  rw [render, descend, if_neg fun hp => hall hp.2, lead]
  by_cases hp : p.names = []
  · rw [if_pos hp, hp, List.nil_append]
  · rw [if_neg hp, String.intercalate_append_of_ne_nil hp h]
    simp [String.append_assoc]

theorem lead_of_names {p : Path} (h : p.names ≠ []) : p.lead = p.render ++ "/" := by
  rw [lead, render, if_neg h, if_neg fun hp => h hp.2]

theorem lead_of_here {p : Path} (ha : p.anchor = .here) (h : p.names = []) : p.lead = "" := by
  rw [lead, if_pos h, ha]
  rfl

theorem render_of_here {p : Path} (ha : p.anchor = .here) (h : p.names = []) : p.render = "." := by
  rw [render, if_pos ⟨ha, h⟩]

/-- A path whose text starts with no slash and that has no names is the dot. -/
theorem anchor_of_names_eq_nil {p : Path} (hs : ¬ ['/'] <+: p.render.toList) (h : p.names = []) :
    p.anchor = .here := by
  by_contra ha
  apply hs
  rw [render, if_neg fun hp => ha hp.1, h, String.intercalate_nil, String.append_empty]
  cases hp : p.anchor with
  | here => exact absurd hp ha
  | top => exact ⟨[], rfl⟩
  | doubleTop => exact ⟨['/'], rfl⟩

/-- **The text of an extended path determines the names.** -/
theorem render_descend_injective (p : Path) {xs ys : List String} (hx : xs ≠ []) (hy : ys ≠ [])
    (hxs : ∀ name ∈ xs, '/' ∉ name.toList) (hys : ∀ name ∈ ys, '/' ∉ name.toList)
    (h : (p.descend xs).render = (p.descend ys).render) : xs = ys := by
  rw [render_descend p hx, render_descend p hy] at h
  have htail : "/".intercalate xs = "/".intercalate ys := by
    have := congrArg String.toList h
    rw [String.toList_append, String.toList_append] at this
    exact String.toList_inj.mp (List.append_cancel_left this)
  rw [← split_intercalate hx hxs, ← split_intercalate hy hys, htail]

/-- A character other than the slash stands in joined names only if it stands in one of them. -/
theorem not_mem_intercalate {c : Char} {names : List String} (hc : c ≠ '/')
    (h : ∀ name ∈ names, c ∉ name.toList) : c ∉ ("/".intercalate names).toList := by
  induction names with
  | nil => simp
  | cons name names ih =>
    obtain ⟨hname, hrest⟩ := List.forall_mem_cons.mp h
    cases names with
    | nil => rwa [String.intercalate_singleton]
    | cons next rest =>
      have hslash : c ∉ "/".toList := by simpa using hc
      rw [String.intercalate_cons_of_ne_nil (List.cons_ne_nil next rest), String.toList_append,
        String.toList_append, List.mem_append, List.mem_append]
      rintro ((hm | hm) | hm)
      · exact hname hm
      · exact hslash hm
      · exact ih hrest hm

/-- A character other than the slash stands in an extended path only if it stands in the path or in a name. -/
theorem not_mem_render_descend {c : Char} {p : Path} {names : List String} (hc : c ≠ '/')
    (hp : c ∉ p.render.toList) (h : ∀ name ∈ names, c ∉ name.toList) :
    c ∉ (p.descend names).render.toList := by
  by_cases hn : names = []
  · rwa [hn, descend_nil]
  · have hlead : c ∉ p.lead.toList := by
      by_cases hr : p.names = []
      · rw [lead, if_pos hr]
        cases p.anchor <;> simp [Anchor.text, hc]
      · rw [lead_of_names hr]
        simp [hp, hc]
    rw [render_descend p hn, String.toList_append, List.mem_append, not_or]
    exact ⟨hlead, not_mem_intercalate hc h⟩

end Path

end SourceWatch
