import SourceWatch.Text.CaseData

/-!
# Lower-casing

Lower-casing follows the full case mapping of Unicode. All but two characters are mapped one by one.
The capital I with a dot above becomes an `i` and a combining dot. A capital sigma becomes the final
form `ς` where it ends a word: the nearest character before it that is not case-ignorable is cased,
and the nearest such character after it is not.

Main definitions:

* `lowerWith`: the lower-case form of one character in its context.
* `lower`: the lower-case form of a text.
-/

namespace SourceWatch.Text

/-- Whether the first character of a text that is not case-ignorable is cased. -/
def startsCased : List Char → Bool
  | [] => false
  | c :: cs => if isCaseIgnorable c then startsCased cs else isCased c

/-- The lower-case form of `c`. `afterCased` tells whether the nearest character before it that is
not case-ignorable is cased, and `following` is the text behind it. -/
def lowerWith (afterCased : Bool) (following : List Char) (c : Char) : List Char :=
  if c = 'Σ' then [if afterCased && !startsCased following then 'ς' else 'σ']
  else if c = 'İ' then ['i', '\u0307']
  else [toLowerSimple c]

/-- Appends the lower-case form of a text to the reversed text `done`. -/
def lowerOnto (afterCased : Bool) : List Char → (done : List Char) → List Char
  | [], done => done.reverse
  | c :: cs, done =>
    lowerOnto (if isCaseIgnorable c then afterCased else isCased c) cs
      ((lowerWith afterCased cs c).reverseAux done)

/-- The lower-case form of a text. -/
def lower (cs : List Char) : List Char :=
  lowerOnto false cs []

/-- The lower-case form of a string. -/
def lowerString (s : String) : String :=
  String.ofList (lower s.toList)

/-! ### The form without the accumulator -/

/-- The lower-case form of a text behind a context, character by character. -/
def lowerFrom (afterCased : Bool) : List Char → List Char
  | [] => []
  | c :: cs =>
    lowerWith afterCased cs c ++ lowerFrom (if isCaseIgnorable c then afterCased else isCased c) cs

theorem lowerOnto_eq (afterCased : Bool) (cs done : List Char) :
    lowerOnto afterCased cs done = done.reverse ++ lowerFrom afterCased cs := by
  induction cs generalizing afterCased done with
  | nil => simp [lowerOnto, lowerFrom]
  | cons c cs ih => simp [lowerOnto, lowerFrom, ih, List.reverseAux_eq]

theorem lower_eq_lowerFrom (cs : List Char) : lower cs = lowerFrom false cs := by
  simp [lower, lowerOnto_eq]

end SourceWatch.Text
