import SourceWatch.Schema.Check

/-!
# Values that pass their checks

Main statements:

* `Checked.ap_eq_valid`: a record is valid only if all its fields are;
* `Check.le_of_integerFrom`, `Check.le_of_fieldOr`: a number that passes its check, or stands in for a field that
  is not given, is not below the bound.
-/

namespace SourceWatch

namespace Checked

variable {α β : Type}

/-- A function and its argument are valid together only if both are. -/
theorem ap_eq_valid {f : Checked (α → β)} {a : Checked α} {b : β} (h : f.ap a = .valid b) :
    ∃ g x, f = .valid g ∧ a = .valid x ∧ b = g x := by
  cases f with
  | valid g =>
    cases a with
    | valid x =>
      cases h
      exact ⟨g, x, rfl, rfl, rfl⟩
    | faulty issues => cases h
  | faulty issues => cases a <;> cases h

theorem under_eq_valid {step : Step} {a : Checked α} {x : α} (h : a.under step = .valid x) : a = .valid x := by
  cases a with
  | valid y => exact h
  | faulty issues => cases h

theorem map_eq_valid {f : α → β} {a : Checked α} {b : β} (h : a.map f = .valid b) :
    ∃ x, a = .valid x ∧ f x = b := by
  cases a with
  | valid x =>
    cases h
    exact ⟨x, rfl, rfl⟩
  | faulty issues => cases h

end Checked

namespace Check

open Text

variable {α : Type} {members : List (CodeText × Json)} {name : String} {bound n : Int}

/-- A valid field is the one that stands in for it, or was given and passed its check. -/
theorem of_fieldOr {absent x : α} {check : Check α} (h : fieldOr members name absent check = .valid x) :
    x = absent ∨ ∃ given, check given = .valid x := by
  unfold fieldOr at h
  split at h
  · cases h
    exact .inl rfl
  · exact .inr ⟨_, Checked.under_eq_valid h⟩

/-- **A number that passes its check is not below the bound.** -/
theorem le_of_integerFrom {given : Json} (h : integerFrom bound given = .valid n) : bound ≤ n := by
  unfold integerFrom at h
  split at h
  · cases h
  · split at h
    · cases h
    · next hle =>
      cases h
      exact Int.not_lt.mp hle

theorem le_of_fieldOr {absent : Int} (habsent : bound ≤ absent)
    (h : fieldOr members name absent (integerFrom bound) = .valid n) : bound ≤ n := by
  rcases of_fieldOr h with rfl | ⟨given, hgiven⟩
  · exact habsent
  · exact le_of_integerFrom hgiven

end Check

end SourceWatch
