import SourceWatch.Detector
import SourceWatch.Proofs.Text.Lenient
import SourceWatch.Proofs.Text.Sigma

/-!
# A text in the midst of a file

Unifying line ends and lower-casing look at a character together with its neighbours, but only at few
characters.  A text without carriage returns and without capital sigmas reads the same wherever it
stands.

Main statements:

* `Text.infix_unifyNewlines`: unifying line ends keeps a text without carriage returns;
* `Text.infix_lower`: lower-casing does the same to a text without capital sigmas wherever it stands;
* `Detector.textOf_amid`: what an encoded text is read as when other bytes stand around it;
* `Detector.infix_textOf`: an encoded text shows in the text of every file that has it in its midst.
-/

namespace SourceWatch

namespace Text

variable {c : Char} {cs s : List Char}

/-! ### Line ends -/

theorem unifyNewlinesOnto_crlf (cs done : List Char) :
    unifyNewlinesOnto ('\r' :: '\n' :: cs) done = unifyNewlinesOnto cs ('\n' :: done) := by
  rw [unifyNewlinesOnto]

theorem unifyNewlinesOnto_cr (h : ∀ rest, cs ≠ '\n' :: rest) (done : List Char) :
    unifyNewlinesOnto ('\r' :: cs) done = unifyNewlinesOnto cs ('\n' :: done) := by
  rw [unifyNewlinesOnto]
  exact h

theorem unifyNewlinesOnto_other (h : c ≠ '\r') (cs done : List Char) :
    unifyNewlinesOnto (c :: cs) done = unifyNewlinesOnto cs (c :: done) := by
  rw [unifyNewlinesOnto]
  · intro rest hc
    exact absurd hc h
  · exact h

/-- The text that was finished before stands in front. -/
theorem unifyNewlinesOnto_append (cs done front : List Char) :
    unifyNewlinesOnto cs (done ++ front) = front.reverse ++ unifyNewlinesOnto cs done := by
  induction cs, done using unifyNewlinesOnto.induct with
  | case1 done => simp [unifyNewlinesOnto]
  | case2 done cs ih => rw [unifyNewlinesOnto_crlf, unifyNewlinesOnto_crlf, ← ih, List.cons_append]
  | case3 done cs h ih => rw [unifyNewlinesOnto_cr h, unifyNewlinesOnto_cr h, ← ih, List.cons_append]
  | case4 done c cs _ h ih =>
    rw [unifyNewlinesOnto_other h, unifyNewlinesOnto_other h, ← ih, List.cons_append]

theorem unifyNewlinesOnto_singleton (c : Char) (cs : List Char) :
    unifyNewlinesOnto cs [c] = c :: unifyNewlines cs :=
  unifyNewlinesOnto_append cs [] [c]

theorem unifyNewlines_crlf (cs : List Char) :
    unifyNewlines ('\r' :: '\n' :: cs) = '\n' :: unifyNewlines cs := by
  rw [unifyNewlines, unifyNewlinesOnto_crlf, unifyNewlinesOnto_singleton]

theorem unifyNewlines_cr (h : ∀ rest, cs ≠ '\n' :: rest) :
    unifyNewlines ('\r' :: cs) = '\n' :: unifyNewlines cs := by
  rw [unifyNewlines, unifyNewlinesOnto_cr h, unifyNewlinesOnto_singleton]

theorem unifyNewlines_other (h : c ≠ '\r') (cs : List Char) :
    unifyNewlines (c :: cs) = c :: unifyNewlines cs := by
  rw [unifyNewlines, unifyNewlinesOnto_other h, unifyNewlinesOnto_singleton]

/-- A text without carriage returns stays as it is in front of anything. -/
theorem unifyNewlines_append (hs : '\r' ∉ s) (cs : List Char) :
    unifyNewlines (s ++ cs) = s ++ unifyNewlines cs := by
  induction s with
  | nil => rfl
  | cons c s ih =>
    rw [List.mem_cons, not_or] at hs
    rw [List.cons_append, unifyNewlines_other (Ne.symm hs.1), ih hs.2, List.cons_append]

/-- A text without carriage returns keeps its line ends. -/
theorem unifyNewlines_eq_self (hs : '\r' ∉ s) : unifyNewlines s = s := by
  have happend := unifyNewlines_append hs []
  rwa [List.append_nil, show unifyNewlines [] = [] from rfl, List.append_nil] at happend

/-- **Unifying line ends keeps a text without carriage returns.**  Should a carriage return stand before
it and a line feed be its first character, that line feed remains of the two. -/
theorem infix_unifyNewlines (hs : '\r' ∉ s) (a b : List Char) :
    s <:+: unifyNewlines (a ++ s ++ b) := by
  rw [List.append_assoc]
  have hhere : s <:+: unifyNewlines (s ++ b) := by
    rw [unifyNewlines_append hs]
    exact (List.prefix_append s _).isInfix
  have hlonger : ∀ {c : Char} {cs : List Char}, s <:+: cs → s <:+: c :: cs :=
    fun h => h.trans (List.suffix_cons _ _).isInfix
  induction a with
  | nil => exact hhere
  | cons c a ih =>
    rw [List.cons_append]
    by_cases hc : c = '\r'
    · subst hc
      by_cases hlf : ∃ rest, a ++ (s ++ b) = '\n' :: rest
      · obtain ⟨rest, hrest⟩ := hlf
        -- both become what the line feed alone becomes
        rw [hrest, unifyNewlines_other (by decide)] at ih
        rw [hrest, unifyNewlines_crlf]
        exact ih
      · rw [unifyNewlines_cr fun rest h => hlf ⟨rest, h⟩]
        exact hlonger ih
    · rw [unifyNewlines_other hc]
      exact hlonger ih

/-! ### Lower case -/

/-- **Lower-casing does the same to a text without capital sigmas wherever it stands.** -/
theorem infix_lower (hs : 'Σ' ∉ s) (h : s <:+: cs) : lower s <:+: lower cs :=
  infix_lower_of_settled (sigmasSettled_of_not_mem hs) h

end Text

open Text

namespace Detector

/-- What an encoded text is read as when other bytes stand around it. -/
theorem textOf_amid (x y : List UInt8) {s : List Char} (hs : s ≠ []) :
    textOf (x ++ Utf8.encode s ++ y) =
      lower (unifyNewlines (Utf8.decodeLenient x ++ s ++ Utf8.decodeLenient y)) := by
  rw [textOf, Utf8.decodeLenient_resync_iff.mpr fun hempty => absurd hempty hs]

/-- What an encoded text is read as by itself. -/
theorem textOf_encode (s : List Char) : textOf (Utf8.encode s) = lower (unifyNewlines s) := by
  have hread := Utf8.decodeLenient_encode_append s []
  rw [List.append_nil, Utf8.decodeLenient_nil, List.append_nil] at hread
  rw [textOf, hread]

/-- **An encoded text shows in the midst of arbitrary bytes.** -/
theorem infix_textOf {s : List Char} (hcr : '\r' ∉ s) (hsigma : 'Σ' ∉ s) (x y : List UInt8) :
    lower s <:+: textOf (x ++ Utf8.encode s ++ y) := by
  by_cases hs : s = []
  · subst hs
    exact List.nil_infix
  · rw [textOf_amid x y hs]
    exact infix_lower hsigma (infix_unifyNewlines hcr _ _)

end Detector

end SourceWatch
