import SourceWatch.Instant
import SourceWatch.Proofs.Text.Split

/-!
# Reading dates and times

The calendar tells every day by one date, and the written form of an instant tells the instant.  It is read by its
numbers: whatever is not a digit parts them.

Main definitions:

* `Instant.dayOf`: the day of a date;
* `Instant.HasYear`: an instant in a year that can be written;
* `Instant.readRecord?`: the instant that a written form tells.

Main statements:

* `Instant.dayOf_civil`: the date of a day determines the day;
* `Instant.readRecord?_inRecord`: an instant is read as it was written.
-/

namespace SourceWatch.Instant

/-! ### Dates -/

/-- The days of an era before a year of it. -/
def daysBefore (yearOfEra : ℕ) : ℕ :=
  365 * yearOfEra + yearOfEra / 4 - yearOfEra / 100

/-- The year of an era in which a day of it lies. -/
def yearOfEra (dayOfEra : ℕ) : ℕ :=
  (dayOfEra - dayOfEra / 1460 + dayOfEra / 36524 - dayOfEra / 146096) / 365

/-- The day of a date, counted from the beginning of 1970. -/
def dayOf (d : Date) : ℤ :=
  let year := if d.month ≤ 2 then d.year - 1 else d.year
  let slot := if d.month ≤ 2 then d.month + 9 else d.month - 3
  year / 400 * 146097 + (daysBefore (year % 400).toNat + ((153 * slot + 2) / 5 + (d.day - 1)) : ℕ) - 719468

/-- **A day lies in its year**, which has 366 days at most. -/
theorem daysBefore_yearOfEra {dayOfEra : ℕ} (h : dayOfEra < 146097) :
    daysBefore (yearOfEra dayOfEra) ≤ dayOfEra ∧ dayOfEra ≤ daysBefore (yearOfEra dayOfEra) + 365 ∧
      yearOfEra dayOfEra < 400 := by
  by_cases hlast : dayOfEra = 146096
  · subst hlast
    decide
  · unfold daysBefore
    generalize hy : yearOfEra dayOfEra = y
    have hera : dayOfEra / 146096 = 0 := by omega
    rw [yearOfEra, hera] at hy
    -- the century settles how many leap days are left out before the day
    have hcentury : y / 100 = dayOfEra / 36524 := by omega
    have hleaps : dayOfEra / 1460 ≤ y / 4 + 1 := by omega
    omega

/-- **The date of a day determines the day.** -/
theorem dayOf_civil (days : ℤ) : dayOf (civil days) = days := by
  simp only [civil, Int.fdiv_eq_ediv_of_nonneg _ (show (0 : ℤ) ≤ 146097 by decide),
    Int.fmod_eq_emod_of_nonneg _ (show (0 : ℤ) ≤ 146097 by decide)]
  generalize hera : (days + 719468) / 146097 = era
  generalize hday : ((days + 719468) % 146097).toNat = dayOfEra
  have hrange : dayOfEra < 146097 := by omega
  have hsplit : days + 719468 = era * 146097 + dayOfEra := by omega
  obtain ⟨hbefore, hafter, hyear⟩ := daysBefore_yearOfEra hrange
  rw [← yearOfEra, ← daysBefore]
  generalize yearOfEra dayOfEra = year at hbefore hafter hyear
  generalize hdayOfYear : dayOfEra - daysBefore year = dayOfYear
  generalize hslot : (5 * dayOfYear + 2) / 153 = slot
  have hslots : slot ≤ 11 ∧ (153 * slot + 2) / 5 ≤ dayOfYear := by omega
  by_cases hearly : slot < 10
  · have hmonth : ¬slot + 3 ≤ 2 := by omega
    simp only [dayOf, if_pos hearly, if_neg hmonth]
    have hy : ((year : ℤ) + era * 400) / 400 = era := by omega
    have hm : ((year : ℤ) + era * 400) % 400 = year := by omega
    rw [hy, hm, Int.toNat_natCast]
    omega
  · have hmonth : slot - 9 ≤ 2 := by omega
    simp only [dayOf, if_neg hearly, if_pos hmonth]
    have hy : ((year : ℤ) + era * 400 + 1 - 1) / 400 = era := by omega
    have hm : ((year : ℤ) + era * 400 + 1 - 1) % 400 = year := by omega
    rw [hy, hm, Int.toNat_natCast]
    omega

/-! ### Numbers in a text -/

/-- The numbers in a text, parted by whatever is not a digit. -/
def numbers (cs : List Char) : List ℕ :=
  (Text.splitOn ' ' (cs.map fun c => if c.isDigit then c else ' ')).map fun part => Nat.ofDigitChars 10 part 0

/-- A text that consists of digits. -/
def IsNumeral (cs : List Char) : Prop :=
  ∀ c ∈ cs, c.isDigit = true

variable {xs ys : List Char} {c : Char}

theorem IsNumeral.map_eq (h : IsNumeral xs) : xs.map (fun c => if c.isDigit then c else ' ') = xs := by
  have hkeep : ∀ c ∈ xs, (if c.isDigit then c else ' ') = id c := fun c hc => if_pos (h c hc)
  rw [List.map_congr_left hkeep, List.map_id]

theorem IsNumeral.not_mem (h : IsNumeral xs) : ' ' ∉ xs := by
  intro hc
  cases h ' ' hc

/-- A numeral is read up to the character behind it. -/
theorem numbers_append (h : IsNumeral xs) (hc : c.isDigit = false) (ys : List Char) :
    numbers (xs ++ c :: ys) = Nat.ofDigitChars 10 xs 0 :: numbers ys := by
  have hblank : (if c.isDigit then c else ' ') = ' ' := by rw [hc]; rfl
  rw [numbers, List.map_append, h.map_eq, List.map_cons, hblank, Text.splitOn_append,
    Text.splitOn_of_not_mem h.not_mem, List.singleton_append, List.map_cons]
  rfl

theorem isNumeral_padded (width n : ℕ) : IsNumeral (padded width n).toList := by
  intro c hc
  rw [padded, String.toList_ofList, List.mem_append] at hc
  rcases hc with hc | hc
  · rw [List.eq_of_mem_replicate hc]
    rfl
  · exact Nat.isDigit_of_mem_toDigits (by decide) (by decide) hc

/-- Zeros in front do not change a number. -/
theorem ofDigitChars_padded (width n : ℕ) : Nat.ofDigitChars 10 (padded width n).toList 0 = n := by
  have hzeros : ∀ k cs, Nat.ofDigitChars 10 (List.replicate k '0' ++ cs) 0 = Nat.ofDigitChars 10 cs 0 := by
    intro k cs
    induction k with
    | zero => rfl
    | succ k ih =>
      rw [List.replicate_succ, List.cons_append, Nat.ofDigitChars_cons]
      exact ih
  rw [padded, String.toList_ofList, hzeros, Nat.ofDigitChars_toDigits (by decide) (by decide)]

/-! ### Written forms -/

/-- The date of an instant. -/
def date (t : Instant) : Date :=
  civil ((t.micros.fdiv 1000000).fdiv 86400)

/-- **The instant lies in a year that can be written.** -/
def HasYear (t : Instant) : Prop :=
  0 ≤ t.date.year

instance (t : Instant) : Decidable t.HasYear :=
  inferInstanceAs (Decidable (0 ≤ t.date.year))

/-- The instant of a date and a time of day. -/
def ofClock (d : Date) (hour minute second micro : ℕ) : Instant :=
  ⟨(dayOf d * 86400 + (3600 * hour + 60 * minute + second : ℕ)) * 1000000 + micro⟩

/-- The instant that a written form tells: a date, a time of day, perhaps a fraction, and no distance from UTC. -/
def readRecord? (s : String) : Option Instant :=
  match numbers s.toList with
  | [year, month, day, hour, minute, second, 0, 0] => some (ofClock ⟨year, month, day⟩ hour minute second 0)
  | [year, month, day, hour, minute, second, micro, 0, 0] =>
    some (ofClock ⟨year, month, day⟩ hour minute second micro)
  | _ => none

/-- An instant is that of its date and its time of day. -/
theorem ofClock_date (t : Instant) :
    let clock := ((t.micros.fdiv 1000000).fmod 86400).toNat
    ofClock t.date (clock / 3600) (clock / 60 % 60) (clock % 60) (t.micros.fmod 1000000).toNat = t := by
  intro clock
  have hday : (0 : ℤ) ≤ 86400 := by decide
  have hmicro : (0 : ℤ) ≤ 1000000 := by decide
  have hclock : clock = (t.micros / 1000000 % 86400).toNat := by
    show ((t.micros.fdiv 1000000).fmod 86400).toNat = _
    rw [Int.fdiv_eq_ediv_of_nonneg _ hmicro, Int.fmod_eq_emod_of_nonneg _ hday]
  rw [ofClock, date, dayOf_civil, Int.fdiv_eq_ediv_of_nonneg _ hday, Int.fdiv_eq_ediv_of_nonneg _ hmicro,
    Int.fmod_eq_emod_of_nonneg _ hmicro]
  clear_value clock
  congr 1
  omega

/-- The characters of a written form: numbers with a character behind each of them. -/
theorem toList_inRecord (t : Instant) :
    let clock := ((t.micros.fdiv 1000000).fmod 86400).toNat
    let fraction := (t.micros.fmod 1000000).toNat
    t.inRecord.toList =
      (padded 4 t.date.year.toNat).toList ++ '-' :: ((padded 2 t.date.month).toList ++ '-' ::
        ((padded 2 t.date.day).toList ++ 'T' :: ((padded 2 (clock / 3600)).toList ++ ':' ::
          ((padded 2 (clock / 60 % 60)).toList ++ ':' :: ((padded 2 (clock % 60)).toList ++
            ((if fraction = 0 then [] else '.' :: (padded 6 fraction).toList) ++ '+' :: "00:00".toList)))))) := by
  have htext : ∀ s : String, toString s = s := fun _ => rfl
  have hdash : "-".toList = ['-'] := by simp
  have htime : "T".toList = ['T'] := by simp
  have hcolon : ":".toList = [':'] := by simp
  have hzone : "+00:00".toList = '+' :: "00:00".toList := by simp
  have hfraction : ∀ n, (if n = 0 then "" else "." ++ padded 6 n).toList =
      if n = 0 then [] else '.' :: (padded 6 n).toList := by
    intro n
    split
    · simp
    · simp [String.toList_append]
  simp only [inRecord, render, String.toList_append, htext, hdash, htime, hcolon, hzone, hfraction, date,
    List.append_assoc, List.cons_append, List.nil_append]

/-- **An instant is read as it was written.** -/
theorem readRecord?_inRecord {t : Instant} (h : t.HasYear) : readRecord? t.inRecord = some t := by
  have hzone : numbers "00:00".toList = [0, 0] := by decide +kernel
  have hyear : (t.date.year.toNat : ℤ) = t.date.year := Int.toNat_of_nonneg h
  have hinstant := ofClock_date t
  rw [readRecord?, toList_inRecord]
  simp only [numbers_append (isNumeral_padded _ _) (show '-'.isDigit = false from rfl),
    numbers_append (isNumeral_padded _ _) (show 'T'.isDigit = false from rfl),
    numbers_append (isNumeral_padded _ _) (show ':'.isDigit = false from rfl), ofDigitChars_padded]
  by_cases hfraction : (t.micros.fmod 1000000).toNat = 0
  · rw [if_pos hfraction, List.nil_append, numbers_append (isNumeral_padded _ _) (show '+'.isDigit = false from rfl),
      hzone, ofDigitChars_padded]
    simp only [hyear]
    rw [hfraction] at hinstant
    exact congrArg some hinstant
  · rw [if_neg hfraction, List.cons_append, numbers_append (isNumeral_padded _ _) (show '.'.isDigit = false from rfl),
      numbers_append (isNumeral_padded _ _) (show '+'.isDigit = false from rfl), hzone, ofDigitChars_padded,
      ofDigitChars_padded]
    simp only [hyear]
    exact congrArg some hinstant

end SourceWatch.Instant
