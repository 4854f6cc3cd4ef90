import SourceWatch.Text.Lowercase
import Mathlib.Data.List.Infix
import Mathlib.Tactic.Common

/-!
# Capital sigmas in their surroundings

Lower-casing looks at the surroundings of a capital sigma: at the nearest characters before and behind it that are
not case-ignorable.  If the text itself has them, as far as they matter, the sigma is settled.  A text whose
sigmas are settled becomes the same wherever it stands, and no other text does.

Main definitions:

* `casedAhead?`, `casedBehind?`: what a text tells of its surroundings;
* `SigmasSettled`: every capital sigma of a text is settled by the text itself;
* `lowerAmid`: the lower-case form of a text between others.

Main statements:

* `infix_lower_of_settled`: a text whose sigmas are settled becomes the same wherever it stands;
* `exists_not_infix_lower`: any other text becomes something else somewhere.
-/

namespace SourceWatch.Text

/-- Whether the first character of a text that is not case-ignorable is cased; `none` if there is no such
character. -/
def casedAhead? : List Char → Option Bool
  | [] => none
  | c :: cs => if isCaseIgnorable c then casedAhead? cs else some (isCased c)

/-- Whether the last character of a text that is not case-ignorable is cased; `none` if there is no such
character. -/
def casedBehind? (cs : List Char) : Option Bool :=
  casedAhead? cs.reverse

/-- What is known of the characters before and behind a capital sigma settles its form: either one of them
rules out the final form, or both of them make it final. -/
def SettlesSigma (behind ahead : Option Bool) : Prop :=
  behind = some false ∨ ahead = some true ∨ behind = some true ∧ ahead = some false

/-- **Settled sigmas.**  The form of every capital sigma of a text is settled by the text itself. -/
def SigmasSettled (s : List Char) : Prop :=
  ∀ u v, s = u ++ 'Σ' :: v → SettlesSigma (casedBehind? u) (casedAhead? v)

/-- The lower-case form of a text that stands behind a context and before `following`. -/
def lowerAmid (following : List Char) (afterCased : Bool) : List Char → List Char
  | [] => []
  | c :: cs =>
    lowerWith afterCased (cs ++ following) c ++
      lowerAmid following (if isCaseIgnorable c then afterCased else isCased c) cs

variable {c : Char} {cs s following following' : List Char} {afterCased afterCased' : Bool}

/-! ### What a text tells of its surroundings -/

theorem casedAhead?_append (cs following : List Char) :
    casedAhead? (cs ++ following) = (casedAhead? cs).or (casedAhead? following) := by
  induction cs with
  | nil => rfl
  | cons c cs ih =>
    rw [List.cons_append, casedAhead?, casedAhead?, ih]
    split
    · rfl
    · rfl

theorem casedBehind?_cons (c : Char) (cs : List Char) :
    casedBehind? (c :: cs) = (casedBehind? cs).or (casedAhead? [c]) := by
  rw [casedBehind?, List.reverse_cons, casedAhead?_append]
  rfl

/-- What is known in front of a text is still known behind its first character, unless that one is cased or
uncased itself. -/
theorem getD_casedAhead?_singleton_or (c : Char) (behind : Option Bool) (afterCased : Bool) :
    ((casedAhead? [c]).or behind).getD afterCased =
      if isCaseIgnorable c then behind.getD afterCased else isCased c := by
  rw [casedAhead?]
  split <;> rfl

theorem startsCased_eq (cs : List Char) : startsCased cs = (casedAhead? cs).getD false := by
  induction cs with
  | nil => rfl
  | cons c cs ih =>
    rw [startsCased, casedAhead?, ih]
    split
    · rfl
    · rfl

theorem startsCased_iff : startsCased cs = true ↔ casedAhead? cs = some true := by
  rw [startsCased_eq]
  cases casedAhead? cs with
  | none => simp
  | some cased => simp

theorem startsCased_append (cs following : List Char) :
    startsCased (cs ++ following) = (casedAhead? cs).getD (startsCased following) := by
  rw [startsCased_eq, startsCased_eq, casedAhead?_append]
  cases casedAhead? cs <;> rfl

theorem isCaseIgnorable_of_casedAhead?_eq_none (h : casedAhead? cs = none) :
    ∀ c ∈ cs, isCaseIgnorable c = true := by
  induction cs with
  | nil => exact fun c hc => by cases hc
  | cons c cs ih =>
    rw [casedAhead?] at h
    split at h
    · next hc => exact List.forall_mem_cons.mpr ⟨hc, ih h⟩
    · cases h

/-- A capital sigma and a capital A are cased, and no character passes them over. -/
theorem cased_sigma_and_a :
    (isCaseIgnorable 'Σ' = false ∧ isCased 'Σ' = true) ∧
      isCaseIgnorable 'A' = false ∧ isCased 'A' = true ∧ toLowerSimple 'A' = 'a' := by
  decide +kernel

theorem casedAhead?_sigma (cs : List Char) : casedAhead? ('Σ' :: cs) = some true := by
  obtain ⟨⟨hskip, hcased⟩, -⟩ := cased_sigma_and_a
  rw [casedAhead?, hskip, hcased]
  rfl

theorem sigma_not_mem_of_casedAhead?_eq_none (h : casedAhead? cs = none) : 'Σ' ∉ cs := by
  intro hmem
  have hskip := isCaseIgnorable_of_casedAhead?_eq_none h 'Σ' hmem
  rw [cased_sigma_and_a.1.1] at hskip
  cases hskip

theorem sigma_not_mem_of_casedBehind?_eq_none (h : casedBehind? cs = none) : 'Σ' ∉ cs := by
  rw [← List.mem_reverse]
  exact sigma_not_mem_of_casedAhead?_eq_none h

/-! ### One character -/

theorem lowerWith_sigma (afterCased : Bool) (following : List Char) :
    lowerWith afterCased following 'Σ' =
      [if afterCased && !startsCased following then 'ς' else 'σ'] := by
  rw [lowerWith, if_pos rfl]

/-- What a character other than the capital sigma becomes does not depend on its context. -/
theorem lowerWith_of_ne (h : c ≠ 'Σ') (afterCased afterCased' : Bool) (following following' : List Char) :
    lowerWith afterCased following c = lowerWith afterCased' following' c := by
  rw [lowerWith, lowerWith, if_neg h, if_neg h]

theorem lowerWith_congr (h : startsCased following = startsCased following') (afterCased : Bool) (c : Char) :
    lowerWith afterCased following c = lowerWith afterCased following' c := by
  rw [lowerWith, lowerWith, h]

/-- A sigma that is settled has the same form in any surroundings. -/
theorem lowerWith_of_settles {behind : Option Bool} (h : SettlesSigma behind (casedAhead? cs))
    (afterCased : Bool) (following : List Char) :
    lowerWith (behind.getD afterCased) (cs ++ following) 'Σ' = lowerWith (behind.getD false) cs 'Σ' := by
  rw [lowerWith_sigma, lowerWith_sigma, startsCased_append, startsCased_eq cs]
  rcases h with rfl | hahead | ⟨rfl, hahead⟩
  · rfl
  · rw [hahead]
    simp only [Option.getD_some, Bool.not_true, Bool.and_false]
  · rw [hahead]
    rfl

/-! ### A text between others -/

/-- A part of a text becomes what it becomes between the other parts. -/
theorem lowerFrom_append (cs following : List Char) (afterCased : Bool) :
    lowerFrom afterCased (cs ++ following) =
      lowerAmid following afterCased cs ++ lowerFrom ((casedBehind? cs).getD afterCased) following := by
  induction cs generalizing afterCased with
  | nil => rfl
  | cons c cs ih =>
    have hcontext := getD_casedAhead?_singleton_or c none afterCased
    rw [Option.or_none] at hcontext
    rw [List.cons_append, lowerFrom, lowerAmid, ih, List.append_assoc, casedBehind?_cons, Option.getD_or,
      hcontext]
    rfl

theorem lowerFrom_eq_lowerAmid (afterCased : Bool) (cs : List Char) :
    lowerFrom afterCased cs = lowerAmid [] afterCased cs := by
  have h := lowerFrom_append cs [] afterCased
  rwa [List.append_nil, lowerFrom, List.append_nil] at h

/-- Of what follows, only the nearest character counts that is not passed over. -/
theorem lowerAmid_congr (h : startsCased following = startsCased following') (afterCased : Bool)
    (s : List Char) : lowerAmid following afterCased s = lowerAmid following' afterCased s := by
  induction s generalizing afterCased with
  | nil => rfl
  | cons c s ih =>
    have hsame : startsCased (s ++ following) = startsCased (s ++ following') := by
      rw [startsCased_append, startsCased_append, h]
    rw [lowerAmid, lowerAmid, ih, lowerWith_congr hsame]

/-- A text without capital sigmas becomes the same between any others. -/
theorem lowerAmid_of_not_mem (hs : 'Σ' ∉ s) (following following' : List Char)
    (afterCased afterCased' : Bool) :
    lowerAmid following afterCased s = lowerAmid following' afterCased' s := by
  induction s generalizing afterCased afterCased' with
  | nil => rfl
  | cons c s ih =>
    rw [List.mem_cons, not_or] at hs
    rw [lowerAmid, lowerAmid, lowerWith_of_ne (Ne.symm hs.1) afterCased afterCased' _ (s ++ following')]
    exact congrArg _ (ih hs.2 _ _)

/-- A text becomes the same between any others if its sigmas are settled by it and by what is known to stand
before it. -/
theorem lowerAmid_of_settles (behind : Option Bool)
    (hs : ∀ u v, s = u ++ 'Σ' :: v → SettlesSigma ((casedBehind? u).or behind) (casedAhead? v))
    (following : List Char) (afterCased : Bool) :
    lowerAmid following (behind.getD afterCased) s = lowerAmid [] (behind.getD false) s := by
  induction s generalizing behind with
  | nil => rfl
  | cons c s ih =>
    have hfirst : lowerWith (behind.getD afterCased) (s ++ following) c =
        lowerWith (behind.getD false) (s ++ []) c := by
      rw [List.append_nil]
      by_cases hc : c = 'Σ'
      · subst hc
        exact lowerWith_of_settles (hs [] s rfl) afterCased following
      · exact lowerWith_of_ne hc _ _ _ _
    have hrest := ih ((casedAhead? [c]).or behind) fun u v hu => by
      have h := hs (c :: u) v (congrArg (c :: ·) hu)
      rwa [casedBehind?_cons, Option.or_assoc] at h
    rw [getD_casedAhead?_singleton_or, getD_casedAhead?_singleton_or] at hrest
    rw [lowerAmid, lowerAmid, hfirst, hrest]

/-- **A text whose sigmas are settled becomes the same wherever it stands.** -/
theorem infix_lower_of_settled (hs : SigmasSettled s) (h : s <:+: cs) : lower s <:+: lower cs := by
  obtain ⟨a, b, rfl⟩ := h
  have hsame : lowerAmid b ((casedBehind? a).getD false) s = lowerAmid [] false s :=
    lowerAmid_of_settles none (fun u v hu => (Option.or_none ▸ hs u v hu)) b _
  rw [lower_eq_lowerFrom, lower_eq_lowerFrom, List.append_assoc, lowerFrom_append, lowerFrom_append,
    lowerFrom_eq_lowerAmid false s, ← List.append_assoc, hsame]
  exact List.infix_append _ _ _

/-- A text without capital sigmas has no sigma to settle. -/
theorem sigmasSettled_of_not_mem (hs : 'Σ' ∉ s) : SigmasSettled s := by
  rintro u v rfl
  exact absurd (List.mem_append_right u List.mem_cons_self) hs

/-- It is enough to look at every place of the text. -/
theorem sigmasSettled_iff_forall_lt : SigmasSettled s ↔ ∀ i < s.length, s[i]? = some 'Σ' →
    SettlesSigma (casedBehind? (s.take i)) (casedAhead? (s.drop (i + 1))) := by
  constructor
  · intro hs i hi hsigma
    refine hs _ _ ?_
    rw [List.getElem?_eq_getElem hi, Option.some_inj] at hsigma
    rw [← hsigma, ← List.drop_eq_getElem_cons hi, List.take_append_drop]
  · rintro hall u v rfl
    have h := hall u.length (by simp) (by simp)
    rwa [List.take_left, ← List.drop_drop, List.drop_left, List.drop_one, List.tail_cons] at h

instance (behind ahead : Option Bool) : Decidable (SettlesSigma behind ahead) :=
  inferInstanceAs (Decidable (_ ∨ _ ∨ _))

instance (s : List Char) : Decidable (SigmasSettled s) :=
  decidable_of_iff _ sigmasSettled_iff_forall_lt.symm

/-! ### A sigma that is not settled -/

/-- The lower-case form of a text that holds a capital sigma, around that sigma. -/
theorem lowerFrom_around_sigma (u v : List Char) (afterCased : Bool) :
    lowerFrom afterCased (u ++ 'Σ' :: v) =
      lowerAmid ['Σ'] afterCased u ++
        lowerWith ((casedBehind? u).getD afterCased) v 'Σ' ++ lowerFrom true v := by
  have hstarts : startsCased ('Σ' :: v) = startsCased ['Σ'] := by
    rw [startsCased_eq, startsCased_eq, casedAhead?_sigma, casedAhead?_sigma]
  obtain ⟨⟨hskip, hcased⟩, -⟩ := cased_sigma_and_a
  rw [lowerFrom_append, lowerAmid_congr hstarts, lowerFrom, hskip, hcased, List.append_assoc]
  rfl

theorem lowerWith_a (afterCased : Bool) (following : List Char) :
    lowerWith afterCased following 'A' = ['a'] := by
  rw [lowerWith, if_neg (by decide), if_neg (by decide), cased_sigma_and_a.2.2.2]

/-- A final form that what is behind may undo: a capital A behind the text makes the sigma a middle one. -/
theorem not_infix_lower_concat {u v : List Char} (hu : casedBehind? u = some true)
    (hv : casedAhead? v = none) : ¬ lower (u ++ 'Σ' :: v) <:+: lower (u ++ 'Σ' :: (v ++ ['A'])) := by
  obtain ⟨-, hskip, hcased, -⟩ := cased_sigma_and_a
  have halone : lowerWith true v 'Σ' = ['ς'] := by
    rw [lowerWith_sigma, startsCased_eq, hv]
    rfl
  have hbefore : lowerWith true (v ++ ['A']) 'Σ' = ['σ'] := by
    rw [lowerWith_sigma, startsCased_append, hv, startsCased_eq, casedAhead?, hskip, hcased]
    rfl
  have hrest : lowerFrom true (v ++ ['A']) = lowerFrom true v ++ ['a'] := by
    rw [lowerFrom_append, lowerFrom_eq_lowerAmid true v,
      lowerAmid_of_not_mem (sigma_not_mem_of_casedAhead?_eq_none hv) ['A'] [] true true, lowerFrom,
      lowerWith_a]
    rfl
  rw [lower_eq_lowerFrom, lower_eq_lowerFrom, lowerFrom_around_sigma, lowerFrom_around_sigma, hu,
    Option.getD_some, halone, hbefore, hrest]
  -- there is one final sigma less than before
  intro h
  have hcount := h.sublist.count_le 'ς'
  simp only [List.count_append] at hcount
  have hone : List.count 'ς' ['ς'] = 1 ∧ List.count 'ς' ['σ'] = 0 ∧ List.count 'ς' ['a'] = 0 := by decide
  omega

/-- A middle form that what is before may undo: a capital A before the text makes the sigma a final one. -/
theorem not_infix_lower_cons {u v : List Char} (hu : casedBehind? u = none)
    (hv : casedAhead? v ≠ some true) :
    ¬ lower (u ++ 'Σ' :: v) <:+: lower ('A' :: u ++ 'Σ' :: v) := by
  obtain ⟨-, hskip, hcased, -⟩ := cased_sigma_and_a
  have halone : lowerWith false v 'Σ' = ['σ'] := by
    rw [lowerWith_sigma]
    rfl
  have hbehind : lowerWith true v 'Σ' = ['ς'] := by
    have hstarts : startsCased v = false := by
      rwa [← Bool.not_eq_true, startsCased_iff]
    rw [lowerWith_sigma, hstarts]
    rfl
  have hfirst : lowerAmid ['Σ'] false ('A' :: u) = ['a'] ++ lowerAmid ['Σ'] false u := by
    rw [lowerAmid, lowerWith_a, hskip, hcased,
      lowerAmid_of_not_mem (sigma_not_mem_of_casedBehind?_eq_none hu) ['Σ'] ['Σ'] _ false]
  have hcontext : (casedBehind? ('A' :: u)).getD false = true := by
    rw [casedBehind?_cons, hu, casedAhead?, hskip, hcased]
    rfl
  rw [lower_eq_lowerFrom, lower_eq_lowerFrom, lowerFrom_around_sigma, lowerFrom_around_sigma, hu,
    Option.getD_none, halone, hcontext, hbehind, hfirst]
  -- there is one middle sigma less than before
  intro h
  have hcount := h.sublist.count_le 'σ'
  simp only [List.count_append] at hcount
  have hone : List.count 'σ' ['σ'] = 1 ∧ List.count 'σ' ['ς'] = 0 ∧ List.count 'σ' ['a'] = 0 := by decide
  omega

/-- **A text with a sigma that is not settled becomes something else somewhere.** -/
theorem exists_not_infix_lower (hs : ¬ SigmasSettled s) : ∃ t, s <:+: t ∧ ¬ lower s <:+: lower t := by
  simp only [SigmasSettled, SettlesSigma, not_forall, not_or, not_and] at hs
  obtain ⟨u, v, rfl, hbehind, hahead, hboth⟩ := hs
  cases hu : casedBehind? u with
  | none =>
    exact ⟨'A' :: u ++ 'Σ' :: v, (List.suffix_cons 'A' _).isInfix, not_infix_lower_cons hu hahead⟩
  | some cased =>
    cases cased with
    | false => exact absurd hu hbehind
    | true =>
      have hv : casedAhead? v = none := by
        cases hv : casedAhead? v with
        | none => rfl
        | some cased =>
          cases cased with
          | false => exact absurd hv (hboth hu)
          | true => exact absurd hv hahead
      refine ⟨u ++ 'Σ' :: (v ++ ['A']), ?_, not_infix_lower_concat hu hv⟩
      rw [← List.cons_append, ← List.append_assoc]
      exact (List.prefix_append _ _).isInfix

end SourceWatch.Text
