import SourceWatch.Json.Reader
import Mathlib.Data.List.Infix
import Mathlib.Data.List.TakeWhile
import Mathlib.Tactic.Common

/-!
# Why documents are refused

A document is refused for its syntax, for an integer with too many digits, or for values nested too deep.  The second
needs a run of that many digits in the text, and the third as many opening brackets; a text with neither is read,
or refused at some place of it.

Main definitions:

* `Json.HasLongNumber`, `Json.openings`: runs of digits and opening brackets of a text;
* `Json.Accounted`: what a text tells of what is read from its start.

Main statements:

* `Json.accounted_readValue`: what is read from the start of a text is accounted for by the text;
* `Json.hasLongNumber_of_read`, `Json.lt_openings_of_read`: why documents are refused, whatever the limit for nesting.
-/

namespace SourceWatch.Json

open Text

/-- The text has a run of more digits than an integer may have. -/
def HasLongNumber (cs : List Char) : Prop :=
  ∃ digits, digits <:+: cs ∧ digitLimit < digits.length ∧ ∀ d ∈ digits, isDigit d = true

/-- The number of brackets that open an array or an object, in strings or not. -/
def openings (cs : List Char) : ℕ :=
  cs.countP fun c => c = '[' || c = '{'

/-- **What a text tells of what is read from its start,** some levels deep: a value leaves an end of the text; too many
digits make up a run, and values that nest too deep have their brackets. -/
inductive Accounted (limit depth : ℕ) (cs : List Char) {α : Type} : Reading α → Prop
  | value {a : α} {rest : List Char} (behind : rest <:+ cs) : Accounted limit depth cs (.ok (a, rest))
  | malformed {fault : SyntaxFault} {place : List Char} : Accounted limit depth cs (.error (.malformed fault place))
  | tooManyDigits {count : ℕ} (long : HasLongNumber cs) : Accounted limit depth cs (.error (.tooManyDigits count))
  | tooDeep {container : Container} (deep : limit < depth + openings cs) :
      Accounted limit depth cs (.error (.tooDeep container))

variable {α β : Type} {limit depth : ℕ} {cs rest behind : List Char} {result : Reading α}

theorem HasLongNumber.of_suffix (h : HasLongNumber rest) (hs : rest <:+ cs) : HasLongNumber cs := by
  obtain ⟨digits, hinfix, hlong, hdigits⟩ := h
  exact ⟨digits, hinfix.trans hs.isInfix, hlong, hdigits⟩

theorem openings_le_of_suffix (hs : rest <:+ cs) : openings rest ≤ openings cs :=
  hs.sublist.countP_le

namespace Accounted

/-- What is read from an end of a text, the whole text accounts for as well. -/
theorem of_suffix (h : Accounted limit depth rest result) (hs : rest <:+ cs) : Accounted limit depth cs result := by
  cases h with
  | value behind => exact .value (behind.trans hs)
  | malformed => exact .malformed
  | tooManyDigits long => exact .tooManyDigits (long.of_suffix hs)
  | tooDeep deep =>
    have := openings_le_of_suffix hs
    exact .tooDeep (by omega)

/-- An opening bracket accounts for one level. -/
theorem of_deeper {c : Char} (hc : c = '[' ∨ c = '{') (h : Accounted limit (depth + 1) cs result) :
    Accounted limit depth (c :: cs) result := by
  have hcount : openings (c :: cs) = openings cs + 1 := List.countP_cons_of_pos (by simpa using hc)
  cases h with
  | value behind => exact .value (behind.trans (List.suffix_cons c cs))
  | malformed => exact .malformed
  | tooManyDigits long => exact .tooManyDigits (long.of_suffix (List.suffix_cons c cs))
  | tooDeep deep => exact .tooDeep (by omega)

/-- A fault of a part is accounted for as a fault of the whole. -/
theorem error {fault : ReadFault} (h : Accounted limit depth cs (.error fault : Reading α)) :
    Accounted limit depth cs (.error fault : Reading β) := by
  cases h with
  | malformed => exact .malformed
  | tooManyDigits long => exact .tooManyDigits long
  | tooDeep deep => exact .tooDeep deep

theorem suffix {a : α} (h : Accounted limit depth cs (.ok (a, rest))) : rest <:+ cs := by
  cases h with
  | value behind => exact behind

end Accounted

/-! ### Blanks and strings -/

theorem suffix_skipBlanks (cs : List Char) : skipBlanks cs <:+ cs :=
  List.dropWhile_suffix _

/-- What stands behind the first character that is no blank. -/
theorem suffix_of_skipBlanks {c : Char} (h : skipBlanks cs = c :: rest) : rest <:+ cs := by
  have hblanks := suffix_skipBlanks cs
  rw [h] at hblanks
  exact (List.suffix_cons c rest).trans hblanks

theorem accounted_readStringOnto (limit depth : ℕ) (opening cs : List Char) (done : CodeText) :
    Accounted limit depth cs (readStringOnto opening cs done) := by
  fun_induction readStringOnto opening cs done with
  | case2 cs done => exact .value (List.suffix_cons _ _)
  -- a pair of surrogates
  | case6 a b c d done p _ _ a' b' c' d' next rest q _ _ ih =>
    exact ih.of_suffix ⟨['\\', 'u', a, b, c, d, '\\', 'u', a', b', c', d'], rfl⟩
  -- a high surrogate before another escape by number
  | case7 a b c d done p _ _ a' b' c' d' next rest q _ _ ih =>
    exact ih.of_suffix ⟨['\\', 'u', a, b, c, d], rfl⟩
  -- a high surrogate before anything else
  | case8 a b c d e cs done p _ _ _ ih => exact ih.of_suffix ⟨['\\', 'u', a, b, c, d], rfl⟩
  | case9 a b c d e cs done p _ _ ih => exact ih.of_suffix ⟨['\\', 'u', a, b, c, d], rfl⟩
  | case11 e cs done _ _ ch _ ih => exact ih.of_suffix ⟨['\\', e], rfl⟩
  | case14 ch cs done _ _ _ _ _ _ ih => exact ih.of_suffix (List.suffix_cons ch cs)
  | _ => exact .malformed

/-! ### Numbers -/

theorem takeWhole_append (cs : List Char) : (takeWhole cs).1 ++ (takeWhole cs).2 = cs := by
  fun_cases takeWhole cs with
  | case1 cs => rfl
  | case2 => exact List.takeWhile_append_dropWhile

theorem isDigit_of_mem_takeWhole {d : Char} (h : d ∈ (takeWhole cs).1) : isDigit d = true := by
  fun_cases takeWhole cs with
  | case1 cs =>
    rw [takeWhole, List.mem_singleton] at h
    rw [h]
    rfl
  | case2 =>
    rw [takeWhole] at h
    · exact List.mem_takeWhile_imp h
    · assumption

theorem suffix_takeFraction (cs : List Char) : (takeFraction cs).2 <:+ cs := by
  fun_cases takeFraction cs with
  | case1 d cs hd => exact (List.dropWhile_suffix _).trans ⟨['.', d], rfl⟩
  | _ => exact List.suffix_rfl

theorem suffix_takeSign (cs : List Char) : (takeSign cs).2 <:+ cs := by
  fun_cases takeSign cs with
  | case3 => exact List.suffix_rfl
  | _ => exact List.suffix_cons _ _

theorem suffix_takeExponent (cs : List Char) : (takeExponent cs).2 <:+ cs := by
  fun_cases takeExponent cs with
  | case2 e behind _ negative behind' hsign =>
    have hbehind : behind' <:+ behind := by
      have := suffix_takeSign behind
      rwa [hsign] at this
    exact (List.dropWhile_suffix _).trans (hbehind.trans (List.suffix_cons e behind))
  | _ => exact List.suffix_rfl

section Number

variable {whole behind₁ behind₂ behind₃ fraction : List Char} {exponent? : Option ℤ}

/-- What stands behind a number. -/
theorem suffix_of_number (hwhole : takeWhole cs = (whole, behind₁))
    (hfraction : takeFraction behind₁ = (fraction, behind₂))
    (hexponent : takeExponent behind₂ = (exponent?, behind₃)) : behind₃ <:+ cs := by
  have h₁ := takeWhole_append cs
  have h₂ := suffix_takeFraction behind₁
  have h₃ := suffix_takeExponent behind₂
  rw [hwhole] at h₁
  rw [hfraction] at h₂
  rw [hexponent] at h₃
  exact (h₃.trans h₂).trans ⟨whole, h₁⟩

/-- The digits of an integer are a run of the text. -/
theorem hasLongNumber_of_takeWhole (hwhole : takeWhole cs = (whole, behind₁)) (hlong : digitLimit < whole.length) :
    HasLongNumber cs := by
  have happend := takeWhole_append cs
  rw [hwhole] at happend
  refine ⟨whole, ⟨[], behind₁, happend⟩, hlong, fun d hd => ?_⟩
  have hmem : d ∈ (takeWhole cs).1 := by rwa [hwhole]
  exact isDigit_of_mem_takeWhole hmem

theorem accounted_readNumber (limit depth : ℕ) (place : List Char) (negative : Bool) (cs : List Char) :
    Accounted limit depth cs (readNumber place negative cs) := by
  fun_cases readNumber place negative cs with
  | case1 => exact .malformed
  | case2 whole behind₁ _ hwhole fraction behind₂ hfraction exponent? behind₃ hexponent _ hlong =>
    exact .tooManyDigits (hasLongNumber_of_takeWhole hwhole hlong)
  | case3 whole behind₁ _ hwhole fraction behind₂ hfraction exponent? behind₃ hexponent =>
    exact .value (suffix_of_number hwhole hfraction hexponent)
  | case4 whole behind₁ _ hwhole fraction behind₂ hfraction exponent? behind₃ hexponent =>
    exact .value (suffix_of_number hwhole hfraction hexponent)

end Number

/-! ### Values -/

theorem suffix_of_afterWord {word : String} (h : afterWord? word cs = some rest) : rest <:+ cs := by
  unfold afterWord? at h
  split at h
  · cases h
    exact List.drop_suffix _ _
  · cases h

theorem accounted_readPlain (limit depth : ℕ) (cs : List Char) : Accounted limit depth cs (readPlain cs) := by
  unfold readPlain
  split
  -- the six words
  iterate 6 exact .value (suffix_of_afterWord ‹_›)
  split
  · exact (accounted_readNumber limit depth _ true _).of_suffix (List.suffix_cons '-' _)
  · exact accounted_readNumber limit depth cs false cs

/-- A string with its opening quote. -/
theorem accounted_readString (limit depth : ℕ) (behind : List Char) :
    Accounted limit depth ('"' :: behind) (readString ('"' :: behind) behind) :=
  (accounted_readStringOnto limit depth _ behind []).of_suffix (List.suffix_cons '"' behind)

theorem accounted_readKey (limit depth : ℕ) (cs : List Char) : Accounted limit depth cs (readKey cs) := by
  unfold readKey
  split
  · next behind =>
    have hstring := accounted_readString limit depth behind
    split
    · next hread =>
      rw [hread] at hstring
      exact hstring
    · next key rest hread =>
      rw [hread] at hstring
      split
      · next hrest =>
        exact .value ((suffix_skipBlanks _).trans ((suffix_of_skipBlanks hrest).trans hstring.suffix))
      · exact .malformed
  · exact .malformed

/-- An opening bracket that is one too many. -/
theorem accounted_tooDeep {c : Char} {container : Container} (hc : c = '[' ∨ c = '{')
    (hdeep : limit ≤ depth) : Accounted limit depth (c :: cs) (.error (.tooDeep container) : Reading α) := by
  have hcount : openings (c :: cs) = openings cs + 1 := List.countP_cons_of_pos (by simpa using hc)
  exact .tooDeep (by omega)

section Fuel

variable {fuel : ℕ}

theorem accounted_readValue_succ
    (items : ∀ depth cs done, Accounted limit depth cs (readItems limit fuel depth cs done))
    (members : ∀ depth cs done, Accounted limit depth cs (readMembers limit fuel depth cs done)) (depth : ℕ)
    (cs : List Char) : Accounted limit depth cs (readValue limit (fuel + 1) depth cs) := by
  unfold readValue
  split
  · next behind =>
    have hstring := accounted_readString limit depth behind
    split
    · next hread =>
      rw [hread] at hstring
      exact .value hstring.suffix
    · next hread =>
      rw [hread] at hstring
      exact hstring.error
  · next behind =>
    split
    · next hdeep => exact accounted_tooDeep (.inl rfl) hdeep
    · split
      · next rest hrest => exact .value ((suffix_of_skipBlanks hrest).trans (List.suffix_cons _ behind))
      · exact ((items _ _ _).of_suffix (suffix_skipBlanks behind)).of_deeper (.inl rfl)
  · next behind =>
    split
    · next hdeep => exact accounted_tooDeep (.inr rfl) hdeep
    · split
      · next rest hrest => exact .value ((suffix_of_skipBlanks hrest).trans (List.suffix_cons _ behind))
      · exact ((members _ _ _).of_suffix (suffix_skipBlanks behind)).of_deeper (.inr rfl)
  · exact accounted_readPlain limit depth cs

theorem accounted_readItems_succ (value : ∀ depth cs, Accounted limit depth cs (readValue limit fuel depth cs))
    (items : ∀ depth cs done, Accounted limit depth cs (readItems limit fuel depth cs done)) (depth : ℕ)
    (cs : List Char) (done : List Json) : Accounted limit depth cs (readItems limit (fuel + 1) depth cs done) := by
  have hvalue := value depth cs
  unfold readItems
  split
  · next hread =>
    rw [hread] at hvalue
    exact hvalue
  · next item rest hread =>
    rw [hread] at hvalue
    split
    · next hrest => exact .value ((suffix_of_skipBlanks hrest).trans hvalue.suffix)
    · next hrest =>
      exact (items _ _ _).of_suffix
        ((suffix_skipBlanks _).trans ((suffix_of_skipBlanks hrest).trans hvalue.suffix))
    · exact .malformed

theorem accounted_readMembers_succ (value : ∀ depth cs, Accounted limit depth cs (readValue limit fuel depth cs))
    (members : ∀ depth cs done, Accounted limit depth cs (readMembers limit fuel depth cs done)) (depth : ℕ)
    (cs : List Char) (done : List (CodeText × Json)) :
    Accounted limit depth cs (readMembers limit (fuel + 1) depth cs done) := by
  have hkey := accounted_readKey limit depth cs
  unfold readMembers
  split
  · next hread =>
    rw [hread] at hkey
    exact hkey.error
  · next key behind hread =>
    rw [hread] at hkey
    have hvalue := (value depth behind).of_suffix hkey.suffix
    split
    · next hread =>
      rw [hread] at hvalue
      exact hvalue
    · next member rest hread =>
      rw [hread] at hvalue
      split
      · next hrest => exact .value ((suffix_of_skipBlanks hrest).trans hvalue.suffix)
      · next hrest =>
        exact (members _ _ _).of_suffix
          ((suffix_skipBlanks _).trans ((suffix_of_skipBlanks hrest).trans hvalue.suffix))
      · exact .malformed

end Fuel

theorem accounted_of_fuel (limit fuel : ℕ) :
    (∀ depth cs, Accounted limit depth cs (readValue limit fuel depth cs)) ∧
      (∀ depth cs done, Accounted limit depth cs (readItems limit fuel depth cs done)) ∧
        ∀ depth cs done, Accounted limit depth cs (readMembers limit fuel depth cs done) := by
  induction fuel with
  | zero =>
    simp only [readValue, readItems, readMembers]
    exact ⟨fun _ _ => .malformed, fun _ _ _ => .malformed, fun _ _ _ => .malformed⟩
  | succ fuel ih =>
    obtain ⟨value, items, members⟩ := ih
    exact ⟨accounted_readValue_succ items members, accounted_readItems_succ value items,
      accounted_readMembers_succ value members⟩

/-- **What is read from the start of a text is accounted for by the text.** -/
theorem accounted_readValue (limit fuel depth : ℕ) (cs : List Char) :
    Accounted limit depth cs (readValue limit fuel depth cs) :=
  (accounted_of_fuel limit fuel).1 depth cs

/-! ### Documents -/

/-- A document that is refused for more than its syntax is refused on the way to its value. -/
theorem accounted_of_read {fault : ReadFault} (h : readWithin limit cs = .error fault) :
    Accounted limit 0 cs (.error fault : Reading Json) := by
  unfold readWithin at h
  split at h
  · cases h
    exact .malformed
  · have hvalue := (accounted_readValue limit (2 * cs.length + 2) 0 (skipBlanks cs)).of_suffix (suffix_skipBlanks cs)
    split at h
    · next hread =>
      cases h
      rw [hread] at hvalue
      exact hvalue
    · split at h
      · cases h
      · cases h
        exact .malformed

/-- **Too many digits** are a run of the text. -/
theorem hasLongNumber_of_read {count : ℕ} (h : readWithin limit cs = .error (.tooManyDigits count)) :
    HasLongNumber cs := by
  cases accounted_of_read h with
  | tooManyDigits long => exact long

/-- **Values that nest too deep** have an opening bracket for each level. -/
theorem lt_openings_of_read {container : Container} (h : readWithin limit cs = .error (.tooDeep container)) :
    limit < openings cs := by
  cases accounted_of_read h with
  | tooDeep deep => rwa [Nat.zero_add] at deep

end SourceWatch.Json
