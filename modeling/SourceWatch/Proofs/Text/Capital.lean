import SourceWatch.Proofs.Text.Trimmed

/-!
# Texts in lower case

Lower-casing changes the capital letters, and no capital letter is left in what it makes of them.  So a text that
is lower-cased already stays as it is.

Main definition: `isCapital`, the code points that lower-casing changes.

Main statements:

* `not_isCapital_of_mem_lower`: there is no capital in a lower-case form;
* `lower_eq_self`, `lower_lower`: a text without capitals is its own lower-case form;
* `lower_eq_map_toLower`: what becomes of a text in which only ASCII letters are capitals.
-/

namespace SourceWatch.Text

/-- Whether lower-casing changes the character at a code point. -/
def isCapital (n : ℕ) : Bool :=
  n == 0x130 || (lowerTree.find? n).any fun entry => (n - entry.1) % entry.2.1 == 0

variable {c d : Char} {cs following : List Char} {afterCased : Bool}

/-! ### The case data -/

/-- No run of the case data leads to a capital. -/
theorem lowerRuns_lead_to_no_capital :
    lowerRuns.all (fun run => (List.range ((run.2.1 - run.1) / run.2.2.1 + 1)).all fun i =>
      !isCapital ((run.1 + run.2.2.2).toNat + i * run.2.2.1)) = true := by
  decide +kernel

/-- What the runs of the case data lead to are code points. -/
theorem lowerRuns_lead_above_zero :
    lowerRuns.all (fun run => decide (0 ≤ run.1 + run.2.2.2)) = true := by
  decide +kernel

/-- The capital sigma is a capital; its two lower-case forms and the parts of the dotted i are not. -/
theorem isCapital_exceptions :
    isCapital 'Σ'.toNat = true ∧ isCapital 'σ'.toNat = false ∧ isCapital 'ς'.toNat = false ∧
      isCapital 'i'.toNat = false ∧ isCapital '\u0307'.toNat = false ∧ isCapital 0 = false := by
  decide +kernel

/-- The ASCII capitals become what they become among ASCII characters. -/
theorem toLowerSimple_ascii :
    ((List.range 26).all fun i =>
      decide (toLowerSimple (Char.ofNat (65 + i)) = (Char.ofNat (65 + i)).toLower)) = true := by
  decide +kernel

/-! ### One character -/

theorem toLowerSimple_of_not_isCapital (h : isCapital c.toNat = false) : toLowerSimple c = c := by
  unfold toLowerSimple
  split
  · next first stride offset hfind =>
    rw [isCapital, hfind, Bool.or_eq_false_iff] at h
    have hstride : ¬ (c.toNat - first) % stride = 0 := by simpa using h.2
    exact if_neg hstride
  · rfl

/-- A character that is no capital stays. -/
theorem lowerWith_of_not_isCapital (h : isCapital c.toNat = false) (afterCased : Bool)
    (following : List Char) : lowerWith afterCased following c = [c] := by
  have hsigma : c ≠ 'Σ' := by
    rintro rfl
    rw [isCapital_exceptions.1] at h
    cases h
  have hdotted : c ≠ 'İ' := by
    rintro rfl
    cases h
  rw [lowerWith, if_neg hsigma, if_neg hdotted, toLowerSimple_of_not_isCapital h]

/-- A character that is no capital after its ASCII form is lower-cased becomes that form. -/
theorem lowerWith_of_not_isCapital_toLower (h : isCapital c.toLower.toNat = false) (afterCased : Bool)
    (following : List Char) : lowerWith afterCased following c = [c.toLower] := by
  by_cases hupper : 65 ≤ c.toNat ∧ c.toNat ≤ 90
  · have hplace : c.toNat - 65 ∈ List.range 26 := List.mem_range.mpr (by omega)
    have hc : Char.ofNat (65 + (c.toNat - 65)) = c := by
      rw [Nat.add_sub_cancel' hupper.1, Char.ofNat_toNat]
    have hascii := of_decide_eq_true (List.all_eq_true.mp toLowerSimple_ascii _ hplace)
    rw [hc] at hascii
    have hsigma : c ≠ 'Σ' := by
      rintro rfl
      simp at hupper
    have hdotted : c ≠ 'İ' := by
      rintro rfl
      simp at hupper
    rw [lowerWith, if_neg hsigma, if_neg hdotted, hascii]
  · have hself : c.toLower = c := by
      unfold Char.toLower
      rw [dif_neg]
      intro hc
      exact hupper ⟨UInt32.le_iff_toNat_le.mp hc.1, UInt32.le_iff_toNat_le.mp hc.2⟩
    rw [hself] at h ⊢
    exact lowerWith_of_not_isCapital h afterCased following

/-- What the case data lead to is no capital. -/
theorem not_isCapital_of_run {first last stride n : ℕ} {offset : ℤ}
    (hrun : (first, last, stride, offset) ∈ lowerRuns) (hfirst : first ≤ n) (hlast : n ≤ last)
    (hstride : (n - first) % stride = 0) : isCapital (n + offset).toNat = false := by
  have hall := List.all_eq_true.mp lowerRuns_lead_to_no_capital _ hrun
  have habove := of_decide_eq_true (List.all_eq_true.mp lowerRuns_lead_above_zero _ hrun)
  have hplace : (n - first) / stride < (last - first) / stride + 1 :=
    Nat.lt_succ_of_le (Nat.div_le_div_right (by omega))
  have hnot := List.all_eq_true.mp hall _ (List.mem_range.mpr hplace)
  have hpoint : (first + offset).toNat + (n - first) / stride * stride = (n + offset).toNat := by
    rw [Nat.div_mul_cancel (Nat.dvd_of_mod_eq_zero hstride)]
    simp only at habove
    omega
  rw [hpoint] at hnot
  simpa using hnot

theorem not_isCapital_ofNat {n : ℕ} (h : isCapital n = false) : isCapital (Char.ofNat n).toNat = false := by
  by_cases hvalid : n.isValidChar
  · have hpoint : (Char.ofNat n).toNat = n := congrArg Char.toNat (dif_pos hvalid)
    rwa [hpoint]
  · have hinvalid : Char.ofNat n = Char.ofNat 0 := dif_neg hvalid
    rw [hinvalid]
    exact isCapital_exceptions.2.2.2.2.2

theorem not_isCapital_toLowerSimple (h : c ≠ 'İ') : isCapital (toLowerSimple c).toNat = false := by
  have hpoint : c.toNat ≠ 0x130 := fun he => h (Char.toNat_inj.mp he)
  unfold toLowerSimple
  split
  · next first stride offset hfind =>
    split
    · next hstride =>
      obtain ⟨last, hrun, hfirst, hlast⟩ := exists_run_of_find? hfind
      exact not_isCapital_ofNat (not_isCapital_of_run hrun hfirst hlast hstride)
    · next hstride => simp [isCapital, hfind, hpoint, hstride]
  · next hfind => simp [isCapital, hfind, hpoint]

/-- There is no capital in what a character becomes. -/
theorem not_isCapital_of_mem_lowerWith (h : d ∈ lowerWith afterCased following c) :
    isCapital d.toNat = false := by
  obtain ⟨-, hmiddle, hfinal, hi, hdot, -⟩ := isCapital_exceptions
  unfold lowerWith at h
  split at h
  · rw [List.mem_singleton.mp h]
    split
    · exact hfinal
    · exact hmiddle
  · split at h
    · rcases List.mem_pair.mp h with rfl | rfl
      · exact hi
      · exact hdot
    · next hc =>
      rw [List.mem_singleton.mp h]
      exact not_isCapital_toLowerSimple hc

/-! ### Texts -/

theorem not_isCapital_of_mem_lowerFrom (h : d ∈ lowerFrom afterCased cs) : isCapital d.toNat = false := by
  induction cs generalizing afterCased with
  | nil => cases h
  | cons c cs ih =>
    rw [lowerFrom, List.mem_append] at h
    rcases h with hfirst | hrest
    · exact not_isCapital_of_mem_lowerWith hfirst
    · exact ih hrest

/-- **There is no capital in a lower-case form.** -/
theorem not_isCapital_of_mem_lower (h : d ∈ lower cs) : isCapital d.toNat = false := by
  rw [lower_eq_lowerFrom] at h
  exact not_isCapital_of_mem_lowerFrom h

/-- A text in which only ASCII letters are capitals. -/
theorem lower_eq_map_toLower (h : ∀ c ∈ cs.map Char.toLower, isCapital c.toNat = false) :
    lower cs = cs.map Char.toLower := by
  rw [lower_eq_lowerFrom]
  generalize false = afterCased
  induction cs generalizing afterCased with
  | nil => rfl
  | cons c cs ih =>
    obtain ⟨hc, hcs⟩ := List.forall_mem_cons.mp h
    rw [lowerFrom, lowerWith_of_not_isCapital_toLower hc, ih hcs, List.map_cons, List.singleton_append]

theorem lowerFrom_eq_self (h : ∀ c ∈ cs, isCapital c.toNat = false) (afterCased : Bool) :
    lowerFrom afterCased cs = cs := by
  induction cs generalizing afterCased with
  | nil => rfl
  | cons c cs ih =>
    obtain ⟨hc, hcs⟩ := List.forall_mem_cons.mp h
    rw [lowerFrom, lowerWith_of_not_isCapital hc, ih hcs, List.singleton_append]

/-- **A text without capitals is its own lower-case form.** -/
theorem lower_eq_self (h : ∀ c ∈ cs, isCapital c.toNat = false) : lower cs = cs := by
  rw [lower_eq_lowerFrom, lowerFrom_eq_self h]

/-- Lower-casing twice is lower-casing once. -/
theorem lower_lower (cs : List Char) : lower (lower cs) = lower cs :=
  lower_eq_self fun _ => not_isCapital_of_mem_lower

end SourceWatch.Text
