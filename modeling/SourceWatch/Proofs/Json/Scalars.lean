import SourceWatch.Json.Printer
import SourceWatch.Json.Reader
import SourceWatch.Json.Wire
import Mathlib.Data.List.TakeWhile
import Mathlib.Data.Nat.Notation
import Mathlib.Tactic.Common

/-!
# Reading printed strings and numbers

A string of whole characters is printed with escapes and read back as it was, and so is an integer that does not have
too many digits.  What stands behind a number must not go on with it.

Main definitions:

* `Json.digitCount`: how many digits an integer has;
* `Json.Ends`: what may stand behind a value.

Main statements:

* `Json.readString_flatMap_escapePoint`: strings;
* `Json.readPlain_int`: integers;
* `Json.readPlain_null`, `Json.readPlain_true`, `Json.readPlain_false`: the words.
-/

namespace SourceWatch.Json

open Text

variable {opening cs rest : List Char} {done t : CodeText} {c e ch : Char} {p : CodePoint}

/-! ### Strings -/

theorem readStringOnto_short (h : shortEscape? e = some ch) :
    readStringOnto opening ('\\' :: e :: cs) done = readStringOnto opening cs (CodePoint.ofChar ch :: done) := by
  have hu : e ≠ 'u' := by
    rintro rfl
    cases h
  rw [readStringOnto, h]
  · rintro _ _ _ _ _ _ rfl
    exact absurd rfl hu
  · exact hu

theorem readStringOnto_plain (hquote : c ≠ '"') (hslash : c ≠ '\\') (hcontrol : ¬ c.toNat < 32) :
    readStringOnto opening (c :: cs) done = readStringOnto opening cs (CodePoint.ofChar c :: done) := by
  rw [readStringOnto, if_neg hcontrol]
  · exact hquote
  all_goals
    intros
    contradiction

/-- The digits of a control character are read as its number. -/
theorem exists_hexDigits (h : p.val < 32) :
    ∃ a b c d, hexDigits 4 p.val = [a, b, c, d] ∧ hexQuad? a b c d = some p := by
  have hall : ∀ n < 32, hexQuad? (Nat.digitChar (n / 16 / 16 / 16 % 16)) (Nat.digitChar (n / 16 / 16 % 16))
      (Nat.digitChar (n / 16 % 16)) (Nat.digitChar (n % 16)) = some (Fin.ofNat 0x110000 n) := by decide +kernel
  have hp : Fin.ofNat 0x110000 p.val = p := Fin.ext (Nat.mod_eq_of_lt p.isLt)
  exact ⟨_, _, _, _, rfl, (hall p.val h).trans (congrArg some hp)⟩

theorem readStringOnto_unit (h : p.val < 32) (hrest : cs ≠ []) :
    readStringOnto opening (escapeUnit p.val ++ cs) done = readStringOnto opening cs (p :: done) := by
  obtain ⟨a, b, c, d, hdigits, hquad⟩ := exists_hexDigits h
  have hlow : isHighSurrogate p = false := by
    rw [isHighSurrogate, Bool.and_eq_false_iff, decide_eq_false_iff_not]
    left
    omega
  cases cs with
  | nil => exact absurd rfl hrest
  | cons e cs =>
    rw [escapeUnit, hdigits]
    show readStringOnto opening ('\\' :: 'u' :: a :: b :: c :: d :: e :: cs) done = _
    rw [readStringOnto, hquad]
    simp only [hlow, Bool.false_eq_true, if_false]

theorem ofChar_of_toChar? (h : p.toChar? = some c) : CodePoint.ofChar c = p := by
  by_cases hvalid : p.val.isValidChar
  · rw [CodePoint.toChar?, dif_pos hvalid] at h
    rw [← Option.some.inj h]
    rfl
  · rw [CodePoint.toChar?, dif_neg hvalid] at h
    cases h

/-- **A code point is read as it is printed,** if it is a character. -/
theorem readStringOnto_escapePoint (hwhole : p.toChar?.isSome = true) (hrest : cs ≠ []) :
    readStringOnto opening (escapePoint false p ++ cs) done = readStringOnto opening cs (p :: done) := by
  obtain ⟨c, hc⟩ := Option.isSome_iff_exists.mp hwhole
  have hp := ofChar_of_toChar? hc
  have hval : c.toNat = p.val := by
    rw [← hp]
    rfl
  unfold escapePoint
  simp only [hc, Bool.false_and, Bool.false_eq_true, if_false]
  -- the characters with a letter of their own
  iterate 7
    split
    · next h =>
      rw [← hp, h]
      exact readStringOnto_short rfl
  split
  · next hcontrol => exact readStringOnto_unit hcontrol hrest
  · next hcontrol =>
    rw [← hp]
    exact readStringOnto_plain ‹_› ‹_› (hval ▸ hcontrol)

theorem readStringOnto_flatMap_escapePoint (whole : isWhole t = true) :
    readStringOnto opening (t.flatMap (escapePoint false) ++ '"' :: rest) done = .ok (done.reverse ++ t, rest) := by
  induction t generalizing done with
  | nil =>
    show readStringOnto opening ('"' :: rest) done = _
    rw [readStringOnto, List.append_nil]
  | cons p t ih =>
    rw [isWhole, List.all_cons, Bool.and_eq_true] at whole
    rw [List.flatMap_cons, List.append_assoc, readStringOnto_escapePoint whole.1 (by simp), ih whole.2,
      List.reverse_cons, List.append_assoc]
    rfl

/-- **A string of whole characters is read as it is printed.** -/
theorem readString_flatMap_escapePoint (whole : isWhole t = true) :
    readString opening (t.flatMap (escapePoint false) ++ '"' :: rest) = .ok (t, rest) :=
  readStringOnto_flatMap_escapePoint whole

/-! ### Numbers -/

/-- The characters that may stand behind a value. -/
def enders : List Char :=
  [' ', '\t', '\n', '\r', ',', ']', '}']

/-- The number of digits of an integer. -/
def digitCount (n : ℤ) : ℕ :=
  (Nat.toDigits 10 n.natAbs).length

/-- What may stand behind a value: the end of the text, a blank or a mark. -/
def Ends (rest : List Char) : Prop :=
  ∀ c ∈ rest.head?, c ∈ enders

theorem isDigit_of_mem_toDigits {n : ℕ} (h : c ∈ Nat.toDigits 10 n) : isDigit c = true := by
  have := Nat.isDigit_of_mem_toDigits (by decide) (by decide) h
  simpa [isDigit, Char.isDigit, Char.le_def] using this

theorem digitsValue_toDigits (n : ℕ) : digitsValue (Nat.toDigits 10 n) = n :=
  Nat.ofDigitChars_toDigits (by decide) (by decide)

theorem Ends.notDigit (h : Ends (c :: rest)) : isDigit c = false := by
  have hall : enders.all (fun c => !isDigit c) = true := by decide
  simpa using List.all_eq_true.mp hall c (h c rfl)

/-- No number but zero starts with a zero. -/
theorem head?_toDigits {n : ℕ} (h : 0 < n) : (Nat.toDigits 10 n).head? ≠ some '0' := by
  induction n using Nat.strongRecOn with
  | ind n ih =>
    by_cases hsmall : n < 10
    · rw [Nat.toDigits_of_lt_base hsmall]
      have hall : ∀ k < 10, 0 < k → [Nat.digitChar k].head? ≠ some '0' := by decide
      exact hall n hsmall h
    · have happend := Nat.toDigits_append_toDigits (b := 10) (n := n / 10) (d := n % 10) (by decide) (by omega)
        (Nat.mod_lt _ (by decide))
      rw [Nat.div_add_mod] at happend
      have hsome : (Nat.toDigits 10 (n / 10)).head?.isSome = true :=
        List.isSome_head?.mpr Nat.toDigits_ne_nil
      rw [← happend, List.head?_append, Option.or_of_isSome hsome]
      exact ih _ (by omega) (by omega)


theorem takeWhile_digits {digits : List Char} (hdigits : ∀ d ∈ digits, isDigit d = true) (hends : Ends rest) :
    (digits ++ rest).takeWhile isDigit = digits ∧ (digits ++ rest).dropWhile isDigit = rest := by
  rw [List.takeWhile_append_of_pos hdigits, List.dropWhile_append_of_pos hdigits]
  cases rest with
  | nil => exact ⟨List.append_nil _, rfl⟩
  | cons c rest =>
    rw [List.takeWhile_cons_of_neg, List.dropWhile_cons_of_neg]
    · simp
    all_goals simp [hends.notDigit]

theorem takeWhole_toDigits (n : ℕ) (hends : Ends rest) :
    takeWhole (Nat.toDigits 10 n ++ rest) = (Nat.toDigits 10 n, rest) := by
  obtain ⟨htake, hdrop⟩ := takeWhile_digits (fun d hd => isDigit_of_mem_toDigits (n := n) hd) hends
  rcases Nat.eq_zero_or_pos n with rfl | hpos
  · rfl
  · rw [takeWhole, htake, hdrop]
    intro behind h
    have hhead := head?_toDigits hpos
    cases hd : Nat.toDigits 10 n with
    | nil => exact Nat.toDigits_ne_nil hd
    | cons d digits =>
      rw [hd] at h hhead
      cases h
      exact hhead rfl

theorem takeFraction_of_ends (hends : Ends rest) : takeFraction rest = ([], rest) := by
  unfold takeFraction
  split
  · exact absurd (hends '.' rfl) (by decide)
  · rfl

theorem takeExponent_of_ends (hends : Ends rest) : takeExponent rest = (none, rest) := by
  cases rest with
  | nil => rfl
  | cons c rest =>
    have hall : enders.all (fun c => !(c = 'e' || c = 'E')) = true := by decide
    have hc : (decide (c = 'e') || decide (c = 'E')) = false := by
      simpa using List.all_eq_true.mp hall c (hends c rfl)
    rw [takeExponent, hc]
    rfl

/-- **A whole number is read as it is printed.** -/
theorem readNumber_toDigits {n : ℕ} (place : List Char) (negative : Bool)
    (short : (Nat.toDigits 10 n).length ≤ digitLimit) (hends : Ends rest) :
    readNumber place negative (Nat.toDigits 10 n ++ rest) = .ok (.int (if negative then -n else n), rest) := by
  cases hd : Nat.toDigits 10 n with
  | nil => exact absurd hd Nat.toDigits_ne_nil
  | cons d digits =>
    rw [readNumber, ← hd, takeWhole_toDigits n hends, hd]
    simp only [takeFraction_of_ends hends, takeExponent_of_ends hends]
    rw [← hd, if_neg (Nat.not_lt.mpr short), digitsValue_toDigits]
    rfl

/-! ### Words -/

theorem afterWord?_append (word : String) (rest : List Char) : afterWord? word (word.toList ++ rest) = some rest := by
  have hstarts : word.toList.isPrefixOf (word.toList ++ rest) = true :=
    List.isPrefixOf_iff_prefix.mpr (List.prefix_append _ _)
  rw [afterWord?, if_pos hstarts, ← String.length_toList, List.drop_left]

/-- A text does not start with a word that starts otherwise. -/
theorem afterWord?_cons {word : String} {w : Char} {ws : List Char} (hword : word.toList = w :: ws) (h : w ≠ c) :
    afterWord? word (c :: cs) = none := by
  rw [afterWord?, hword, List.isPrefixOf, beq_eq_false_iff_ne.mpr h]
  rfl

theorem readPlain_null (rest : List Char) : readPlain ("null".toList ++ rest) = .ok (.null, rest) := by
  rw [readPlain.eq_def, afterWord?_append]

theorem readPlain_true (rest : List Char) : readPlain ("true".toList ++ rest) = .ok (.bool true, rest) := by
  have hnull : afterWord? "null" ("true".toList ++ rest) = none := afterWord?_cons (by rfl) (by decide)
  rw [readPlain.eq_def, hnull, afterWord?_append]

theorem readPlain_false (rest : List Char) : readPlain ("false".toList ++ rest) = .ok (.bool false, rest) := by
  have hnull : afterWord? "null" ("false".toList ++ rest) = none := afterWord?_cons (by rfl) (by decide)
  have htrue : afterWord? "true" ("false".toList ++ rest) = none := afterWord?_cons (by rfl) (by decide)
  rw [readPlain.eq_def, hnull, htrue, afterWord?_append]

/-- A digit begins no word. -/
theorem readPlain_digit (h : isDigit c = true) : readPlain (c :: cs) = readNumber (c :: cs) false (c :: cs) := by
  have hne (w : Char) (hw : isDigit w = false) : w ≠ c := by
    rintro rfl
    rw [h] at hw
    cases hw
  rw [readPlain.eq_def, afterWord?_cons (by rfl) (hne 'n' rfl), afterWord?_cons (by rfl) (hne 't' rfl),
    afterWord?_cons (by rfl) (hne 'f' rfl), afterWord?_cons (by rfl) (hne 'N' rfl),
    afterWord?_cons (by rfl) (hne 'I' rfl), afterWord?_cons (by rfl) (hne '-' rfl)]
  dsimp only
  split
  · next hsign =>
    cases hsign
    cases h
  · rfl

/-- Nor does a sign before a digit. -/
theorem readPlain_sign (h : isDigit c = true) :
    readPlain ('-' :: c :: cs) = readNumber ('-' :: c :: cs) true (c :: cs) := by
  have hinfinity : afterWord? "-Infinity" ('-' :: c :: cs) = none := by
    have hne : ('I' == c) = false := by
      rw [beq_eq_false_iff_ne]
      rintro rfl
      cases h
    have hword : "-Infinity".toList = '-' :: 'I' :: "nfinity".toList := by rfl
    rw [afterWord?, hword, List.isPrefixOf, List.isPrefixOf, hne]
    rfl
  rw [readPlain, afterWord?_cons (by rfl) (by decide), afterWord?_cons (by rfl) (by decide),
    afterWord?_cons (by rfl) (by decide), afterWord?_cons (by rfl) (by decide),
    afterWord?_cons (by rfl) (by decide), hinfinity]

theorem exists_toDigits (n : ℕ) : ∃ d digits, Nat.toDigits 10 n = d :: digits ∧ isDigit d = true := by
  cases hd : Nat.toDigits 10 n with
  | nil => exact absurd hd Nat.toDigits_ne_nil
  | cons d digits => exact ⟨d, digits, rfl, isDigit_of_mem_toDigits (n := n) (by simp [hd])⟩

theorem toList_ofNat (n : ℕ) : (toString (Int.ofNat n)).toList = Nat.toDigits 10 n :=
  Nat.toList_repr

theorem toList_negSucc (n : ℕ) : (toString (Int.negSucc n)).toList = '-' :: Nat.toDigits 10 (n + 1) := by
  show ("-" ++ (n + 1).repr).toList = _
  rw [String.toList_append, Nat.toList_repr]
  rfl

/-- **An integer is read as it is printed.** -/
theorem readPlain_int {n : ℤ} (short : digitCount n ≤ digitLimit) (hends : Ends rest) :
    readPlain ((toString n).toList ++ rest) = .ok (.int n, rest) := by
  cases n with
  | ofNat k =>
    obtain ⟨d, digits, hdigits, hdigit⟩ := exists_toDigits k
    change (Nat.toDigits 10 k).length ≤ digitLimit at short
    rw [toList_ofNat, hdigits, List.cons_append, readPlain_digit hdigit, ← List.cons_append, ← hdigits,
      readNumber_toDigits _ _ short hends]
    rfl
  | negSucc k =>
    obtain ⟨d, digits, hdigits, hdigit⟩ := exists_toDigits (k + 1)
    change (Nat.toDigits 10 (k + 1)).length ≤ digitLimit at short
    rw [toList_negSucc, hdigits, List.cons_append, List.cons_append, readPlain_sign hdigit, ← List.cons_append,
      ← hdigits, readNumber_toDigits _ _ short hends]
    rfl

end SourceWatch.Json
