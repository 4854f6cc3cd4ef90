import SourceWatch.Proofs.Text.Sigma
import SourceWatch.Text.Blank

/-!
# Trimmed texts

Lower-casing makes no blank of a character that is none, and leaves blanks as they are.  So it does not matter
to the ends of a text: a text is trimmed if and only if its lower-case form is.

Main definition: `IsTrimmed`, a text without blanks at its ends.

Main statements:

* `isBlank_toLowerSimple`: lower-casing a character neither makes nor takes a blank;
* `strip_eq_self_iff`: trimming leaves the trimmed texts as they are, and no others;
* `isTrimmed_lower_iff`: a text is trimmed if its lower-case form is, and the other way around.
-/

namespace SourceWatch.Text

/-- A text without blanks at its ends. -/
structure IsTrimmed (cs : List Char) : Prop where
  first : cs.head?.any isBlank = false
  last : cs.getLast?.any isBlank = false

variable {c : Char} {cs : List Char}

/-! ### Blanks -/

/-- The runs of code points that are blanks. -/
def blankRuns : List (ℕ × ℕ) :=
  [(9, 13), (28, 32), (0x85, 0x85), (0xA0, 0xA0), (0x1680, 0x1680), (0x2000, 0x200A), (0x2028, 0x2029),
    (0x202F, 0x202F), (0x205F, 0x205F), (0x3000, 0x3000)]

theorem isBlank_iff (c : Char) :
    isBlank c = true ↔ ∃ blanks ∈ blankRuns, blanks.1 ≤ c.toNat ∧ c.toNat ≤ blanks.2 := by
  simp only [isBlank, blankRuns, Bool.or_eq_true, Bool.and_eq_true, decide_eq_true_eq, beq_iff_eq,
    List.mem_cons, List.not_mem_nil, or_false, exists_eq_or_imp, exists_eq_left]
  omega

/-- No run of the case data has a blank in it, and none leads to one. -/
theorem lowerRuns_avoid_blanks :
    lowerRuns.all (fun run => blankRuns.all fun blanks =>
      (decide (run.2.1 < blanks.1) || decide (blanks.2 < run.1)) &&
        (decide (run.2.1 + run.2.2.2 < (blanks.1 : ℤ)) || decide ((blanks.2 : ℤ) < run.1 + run.2.2.2))) = true := by
  decide +kernel

theorem exists_of_isBlank_ofNat {n : ℕ} (h : isBlank (Char.ofNat n) = true) :
    ∃ blanks ∈ blankRuns, blanks.1 ≤ n ∧ n ≤ blanks.2 ∧ n ≠ 0 := by
  have hzero : isBlank (Char.ofNat 0) = false := by decide
  have hvalid : n.isValidChar := by
    by_contra hn
    have hinvalid : Char.ofNat n = Char.ofNat 0 := dif_neg hn
    rw [hinvalid, hzero] at h
    cases h
  have hpoint : (Char.ofNat n).toNat = n := congrArg Char.toNat (dif_pos hvalid)
  obtain ⟨blanks, hmem, hfirst, hlast⟩ := (isBlank_iff _).mp h
  rw [hpoint] at hfirst hlast
  refine ⟨blanks, hmem, hfirst, hlast, ?_⟩
  rintro rfl
  rw [hzero] at h
  cases h

/-- What the look-up of a character tells comes from a run of the case data that holds the character. -/
theorem exists_run_of_find? {n first stride : ℕ} {offset : ℤ}
    (h : lowerTree.find? n = some (first, stride, offset)) :
    ∃ last, (first, last, stride, offset) ∈ lowerRuns ∧ first ≤ n ∧ n ≤ last := by
  unfold lowerTree at h
  obtain ⟨first', last, hmem, hfirst, hlast⟩ := RangeTree.exists_mem_of_find?_ofList h
  obtain ⟨⟨f, l, s, o⟩, hrun, hentry⟩ := List.mem_map.mp hmem
  cases hentry
  exact ⟨_, hrun, hfirst, hlast⟩

/-- **Lower-casing a character neither makes nor takes a blank.** -/
theorem isBlank_toLowerSimple (c : Char) : isBlank (toLowerSimple c) = isBlank c := by
  unfold toLowerSimple
  split
  · next first stride offset hfind =>
    split
    · obtain ⟨last, hrun, hfirst, hlast⟩ := exists_run_of_find? hfind
      have havoid := List.all_eq_true.mp lowerRuns_avoid_blanks _ hrun
      simp only [List.all_eq_true, Bool.and_eq_true, Bool.or_eq_true, decide_eq_true_eq] at havoid
      have hbefore : isBlank c = false := by
        rw [← Bool.not_eq_true, isBlank_iff]
        rintro ⟨blanks, hmem, hstart, hend⟩
        have := (havoid _ hmem).1
        omega
      have hafter : isBlank (Char.ofNat (c.toNat + offset).toNat) = false := by
        rw [← Bool.not_eq_true]
        intro h
        obtain ⟨blanks, hmem, hstart, hend, hpos⟩ := exists_of_isBlank_ofNat h
        have := (havoid _ hmem).2
        omega
      rw [hbefore, hafter]
    · rfl
  · rfl

theorem isBlank_of_mem_lowerWith {afterCased : Bool} {following : List Char} {d : Char}
    (h : d ∈ lowerWith afterCased following c) : isBlank d = isBlank c := by
  unfold lowerWith at h
  split at h
  · next hc =>
    rw [List.mem_singleton.mp h, hc]
    split <;> rfl
  · split at h
    · next hc =>
      rw [hc]
      rcases List.mem_pair.mp h with rfl | rfl <;> rfl
    · rw [List.mem_singleton.mp h]
      exact isBlank_toLowerSimple c

/-! ### Trimming -/

theorem dropWhile_eq_self {p : Char → Bool} (h : cs.head?.any p = false) : cs.dropWhile p = cs := by
  cases cs with
  | nil => rfl
  | cons c cs => exact List.dropWhile_cons_of_neg (by simpa using h)

theorem head?_dropWhile {p : Char → Bool} (cs : List Char) : (cs.dropWhile p).head?.any p = false := by
  have h := List.head?_dropWhile_not p cs
  cases hhead : (cs.dropWhile p).head? with
  | none => rfl
  | some c =>
    rw [hhead] at h
    exact h

theorem isTrimmed_strip (cs : List Char) : IsTrimmed (strip cs) := by
  have hlast : (strip cs).getLast?.any isBlank = false := by
    rw [strip, stripWhere, List.getLast?_reverse]
    exact head?_dropWhile _
  refine ⟨?_, hlast⟩
  -- what is left begins as the text without its first blanks does
  obtain ⟨gone, hgone⟩ := List.dropWhile_suffix isBlank (l := (cs.dropWhile isBlank).reverse)
  have hprefix : strip cs ++ gone.reverse = cs.dropWhile isBlank := by
    rw [strip, stripWhere, ← List.reverse_append, hgone, List.reverse_reverse]
  have hfirst := head?_dropWhile (p := isBlank) cs
  rw [← hprefix] at hfirst
  cases hstrip : strip cs with
  | nil => rfl
  | cons c rest =>
    rw [hstrip] at hfirst
    exact hfirst

/-- **Trimming leaves the trimmed texts as they are,** and no others. -/
theorem strip_eq_self_iff : strip cs = cs ↔ IsTrimmed cs := by
  constructor
  · intro h
    rw [← h]
    exact isTrimmed_strip cs
  · intro h
    have hlast : cs.reverse.head?.any isBlank = false := by
      rw [List.head?_reverse]
      exact h.last
    rw [strip, stripWhere, dropWhile_eq_self h.first, dropWhile_eq_self hlast, List.reverse_reverse]

/-! ### The ends of a lower-case form -/

theorem lowerWith_ne_nil (afterCased : Bool) (following : List Char) (c : Char) :
    lowerWith afterCased following c ≠ [] := by
  unfold lowerWith
  split
  · simp
  · split <;> simp

theorem lower_eq_nil_iff : lower cs = [] ↔ cs = [] := by
  cases cs with
  | nil => exact ⟨fun _ => rfl, fun _ => rfl⟩
  | cons c cs => simp [lower_eq_lowerFrom, lowerFrom, lowerWith_ne_nil]

theorem head?_lower (cs : List Char) : (lower cs).head?.any isBlank = cs.head?.any isBlank := by
  cases cs with
  | nil => rfl
  | cons c cs =>
    rw [lower_eq_lowerFrom, lowerFrom]
    cases hform : lowerWith false cs c with
    | nil => exact absurd hform (lowerWith_ne_nil _ _ _)
    | cons d rest => exact isBlank_of_mem_lowerWith (hform ▸ List.mem_cons_self)

theorem getLast?_lower (cs : List Char) :
    (lower cs).getLast?.any isBlank = cs.getLast?.any isBlank := by
  cases cs using List.reverseRecOn with
  | nil => rfl
  | append_singleton cs c =>
    rw [lower_eq_lowerFrom, lowerFrom_append, lowerFrom, lowerFrom, List.append_nil, List.getLast?_concat]
    generalize (casedBehind? cs).getD false = afterCased
    cases hform : lowerWith afterCased [] c using List.reverseRecOn with
    | nil => exact absurd hform (lowerWith_ne_nil _ _ _)
    | append_singleton rest d =>
      rw [← List.append_assoc, List.getLast?_concat]
      exact isBlank_of_mem_lowerWith (hform ▸ List.mem_append_right _ List.mem_cons_self)

/-- **A text is trimmed if and only if its lower-case form is.** -/
theorem isTrimmed_lower_iff : IsTrimmed (lower cs) ↔ IsTrimmed cs := by
  constructor
  · intro h
    exact ⟨head?_lower cs ▸ h.first, getLast?_lower cs ▸ h.last⟩
  · intro h
    exact ⟨(head?_lower cs).trans h.first, (getLast?_lower cs).trans h.last⟩

end SourceWatch.Text
