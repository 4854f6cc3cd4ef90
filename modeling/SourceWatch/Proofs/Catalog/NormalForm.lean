import SourceWatch.Proofs.Catalog.Keywords
import SourceWatch.Proofs.Distinct
import SourceWatch.Proofs.Text.Capital

/-!
# The normal form of a catalog

The keywords of a catalog are gathered one after the other: a configured keyword joins those before it with its
normal form, unless this is blank or among them already.  A normal form is its own normal form, so gathering the
keywords of a catalog once more gives the same keywords.

Main definitions:

* `Catalog.keywords`: the keywords that a catalog looks for;
* `Catalog.gather`: what one more configured keyword adds;
* `Catalog.IsNormalForm`: what is normal about the catalog of configured keywords and overrides.

Main statements:

* `Catalog.normalKeywords_append`: gathering goes on where it stopped;
* `Catalog.isNormalForm_build`: every catalog is in normal form.
-/

namespace SourceWatch

open Text

/-- A normal form is its own normal form. -/
theorem normalKeyword_normalKeyword (k : String) : normalKeyword (normalKeyword k) = normalKeyword k := by
  rw [← String.toList_inj, toList_normalKeyword (normalKeyword k),
    strip_eq_self_iff.mpr (isTrimmed_normalKeyword k), toList_normalKeyword, lower_lower]

namespace Catalog

/-- The keywords that a catalog looks for, in order. -/
def keywords (c : Catalog) : List String :=
  c.keywordRules.map (·.keyword)

/-- The keywords that have been gathered, and the next configured one. -/
def gather (gathered : List String) (k : String) : List String :=
  if normalKeyword k = "" ∨ normalKeyword k ∈ gathered then gathered else gathered ++ [normalKeyword k]

/-- **What is normal about a catalog** that is built from configured keywords and overrides.  The normal form of a
keyword is what stands between its blanks, in lower case. -/
structure IsNormalForm (configured : List String) (overrides : List (String × Severity)) : Prop where
  /-- No keyword is looked for twice. -/
  distinct : (build configured overrides).keywords.Nodup
  /-- The keywords are the normal forms of the configured ones that are not empty. -/
  mem_iff : ∀ keyword, keyword ∈ (build configured overrides).keywords ↔
    keyword ≠ "" ∧ ∃ k ∈ configured, lower (strip k.toList) = keyword.toList
  /-- They stand in the order in which their first spellings are configured. -/
  ordered : (build configured overrides).keywords.Pairwise fun a b =>
    (configured.map fun k => lower (strip k.toList)).idxOf a.toList <
      (configured.map fun k => lower (strip k.toList)).idxOf b.toList
  /-- The catalog of the keywords of the catalog is the same. -/
  rebuilt : build (build configured overrides).keywords overrides = build configured overrides
  /-- A further spelling of a keyword behind the first one adds nothing. -/
  respelled : ∀ before after k, configured = before ++ after →
    lower (strip k.toList) ∈ before.map (fun k => lower (strip k.toList)) →
    build (before ++ k :: after) overrides = build configured overrides
  /-- A blank keyword adds nothing. -/
  blank : ∀ before after k, configured = before ++ after → strip k.toList = [] →
    build (before ++ k :: after) overrides = build configured overrides

variable {configured before after gathered : List String} {overrides : List (String × Severity)} {k keyword : String}

/-- The normal forms as texts and as characters. -/
theorem map_lower_strip (configured : List String) :
    (configured.map fun k => lower (strip k.toList)) = (configured.map normalKeyword).map String.toList := by
  rw [List.map_map]
  exact List.map_congr_left fun k _ => (toList_normalKeyword k).symm

theorem idxOf_map_toList (texts : List String) (text : String) :
    (texts.map String.toList).idxOf text.toList = texts.idxOf text := by
  induction texts with
  | nil => rfl
  | cons other texts ih =>
    have hsame : (other.toList == text.toList) = (other == text) := by
      rw [Bool.eq_iff_iff, beq_iff_eq, beq_iff_eq, String.toList_inj]
    rw [List.map_cons, List.idxOf_cons, List.idxOf_cons, ih, hsame]

theorem keywords_build (configured : List String) (overrides : List (String × Severity)) :
    (build configured overrides).keywords = normalKeywords configured := by
  rw [keywords, build, List.map_map]
  exact List.map_id _

/-- Two lists of configured keywords with the same normal forms have the same catalog. -/
theorem build_congr {other : List String} (h : normalKeywords configured = normalKeywords other)
    (overrides : List (String × Severity)) : build configured overrides = build other overrides := by
  rw [build, build, h]

/-! ### Gathering keywords -/

/-- One more configured keyword adds its normal form, unless this is empty or known. -/
theorem normalKeywords_concat (configured : List String) (k : String) :
    normalKeywords (configured ++ [k]) = gather (normalKeywords configured) k := by
  rw [gather, normalKeywords, List.map_append, List.filter_append, List.map_singleton]
  by_cases hempty : normalKeyword k = ""
  · have hlast : [normalKeyword k].filter (· ≠ "") = [] := by simp [hempty]
    rw [if_pos (.inl hempty), hlast, List.append_nil, ← normalKeywords]
  · have hlast : [normalKeyword k].filter (· ≠ "") = [normalKeyword k] := by simp [hempty]
    rw [hlast, eraseDups_concat, ← normalKeywords]
    simp only [hempty, false_or]

theorem normalKeywords_append (before after : List String) :
    normalKeywords (before ++ after) = after.foldl gather (normalKeywords before) := by
  induction after using List.reverseRecOn with
  | nil => rw [List.append_nil, List.foldl_nil]
  | append_singleton after k ih =>
    rw [← List.append_assoc, normalKeywords_concat, ih, List.foldl_append, List.foldl_cons, List.foldl_nil]

theorem gather_of_known (h : normalKeyword k ∈ gathered) : gather gathered k = gathered :=
  if_pos (.inr h)

theorem gather_of_blank (h : strip k.toList = []) : gather gathered k = gathered :=
  if_pos (.inl (normalKeyword_eq_empty_iff.mpr h))

/-- A keyword that adds nothing to those before it adds nothing at all. -/
theorem normalKeywords_insert (h : gather (normalKeywords before) k = normalKeywords before)
    (after : List String) : normalKeywords (before ++ k :: after) = normalKeywords (before ++ after) := by
  rw [normalKeywords_append, normalKeywords_append, List.foldl_cons, h]

/-- Distinct keywords that are their own normal forms are gathered as they are. -/
theorem normalKeywords_eq_self (hnormal : ∀ k ∈ configured, k ≠ "" ∧ normalKeyword k = k)
    (hdistinct : configured.Nodup) : normalKeywords configured = configured := by
  induction configured using List.reverseRecOn with
  | nil => rfl
  | append_singleton before k ih =>
    obtain ⟨hbefore, hk⟩ := List.forall_mem_append.mp hnormal
    obtain ⟨hne, hself⟩ := hk k (List.mem_singleton_self k)
    obtain ⟨hdistinct, -, hnew⟩ := List.nodup_append'.mp hdistinct
    have hunknown : k ∉ before := fun hmem => hnew hmem (List.mem_singleton_self k)
    rw [normalKeywords_concat, ih hbefore hdistinct, gather, hself,
      if_neg (not_or.mpr ⟨hne, hunknown⟩)]

/-- The gathered keywords stand in the order in which their first spellings are configured. -/
theorem pairwise_normalKeywords (configured : List String) :
    (normalKeywords configured).Pairwise fun a b =>
      (configured.map normalKeyword).idxOf a < (configured.map normalKeyword).idxOf b := by
  induction configured using List.reverseRecOn with
  | nil => exact List.Pairwise.nil
  | append_singleton before k ih =>
    have hmem : ∀ keyword ∈ normalKeywords before, keyword ∈ before.map normalKeyword := by
      intro keyword hkeyword
      obtain ⟨-, k, hk, rfl⟩ := mem_normalKeywords.mp hkeyword
      exact List.mem_map_of_mem hk
    have hbefore : (normalKeywords before).Pairwise fun a b =>
        ((before ++ [k]).map normalKeyword).idxOf a < ((before ++ [k]).map normalKeyword).idxOf b := by
      refine ih.imp_of_mem fun {a b} ha hb hlt => ?_
      rwa [List.map_append, List.idxOf_append_of_mem (hmem a ha), List.idxOf_append_of_mem (hmem b hb)]
    rw [normalKeywords_concat, gather]
    split
    · exact hbefore
    · next hnew =>
      rw [not_or] at hnew
      refine List.pairwise_append.mpr ⟨hbefore, List.pairwise_singleton _ _, fun a ha b hb => ?_⟩
      have hunknown : normalKeyword k ∉ before.map normalKeyword := by
        intro hk
        obtain ⟨k', hk', he⟩ := List.mem_map.mp hk
        exact hnew.2 (mem_normalKeywords.mpr ⟨hnew.1, k', hk', he⟩)
      -- the new keyword stands behind all that were configured before
      rw [List.mem_singleton.mp hb, List.map_append, List.idxOf_append_of_mem (hmem a ha),
        List.idxOf_append_of_notMem hunknown]
      exact Nat.lt_add_right _ (List.idxOf_lt_length_of_mem (hmem a ha))

theorem nodup_normalKeywords (configured : List String) : (normalKeywords configured).Nodup :=
  nodup_eraseDups _

theorem normalKeywords_normalKeywords (configured : List String) :
    normalKeywords (normalKeywords configured) = normalKeywords configured := by
  refine normalKeywords_eq_self (fun keyword hkeyword => ?_) (nodup_normalKeywords configured)
  obtain ⟨hne, k, -, rfl⟩ := mem_normalKeywords.mp hkeyword
  exact ⟨hne, normalKeyword_normalKeyword k⟩

/-- **Every catalog is in normal form.** -/
theorem isNormalForm_build (configured : List String) (overrides : List (String × Severity)) :
    IsNormalForm configured overrides where
  distinct := by
    rw [keywords_build]
    exact nodup_normalKeywords configured
  mem_iff keyword := by
    rw [keywords_build, mem_normalKeywords]
    simp only [← toList_normalKeyword, String.toList_inj]
  ordered := by
    rw [keywords_build, map_lower_strip]
    simp only [idxOf_map_toList]
    exact pairwise_normalKeywords configured
  rebuilt := by
    refine build_congr ?_ overrides
    rw [keywords_build, normalKeywords_normalKeywords]
  respelled := by
    rintro before after k rfl hknown
    refine build_congr (normalKeywords_insert ?_ after) overrides
    by_cases hempty : normalKeyword k = ""
    · exact gather_of_blank (normalKeyword_eq_empty_iff.mp hempty)
    · obtain ⟨k', hk', he⟩ := List.mem_map.mp hknown
      rw [← toList_normalKeyword, ← toList_normalKeyword, String.toList_inj] at he
      exact gather_of_known (mem_normalKeywords.mpr ⟨hempty, k', hk', he⟩)
  blank := by
    rintro before after k rfl hblank
    exact build_congr (normalKeywords_insert (gather_of_blank hblank) after) overrides

end Catalog

end SourceWatch
