/-!
# Instants

An instant is a number of microseconds since the beginning of 1970 in UTC. It is written as a date of
the Gregorian calendar and a time of day; the fraction of a second is written with six digits, and left
out if it is zero.

Main definitions:

* `Instant`: a point in time.
* `Instant.civil`: the date of a day.
* `Instant.render`: the written form, with a mark for UTC of the caller's choice.
-/

namespace SourceWatch

/-- A point in time, in microseconds since the beginning of 1970. -/
structure Instant where
  micros : Int
  deriving DecidableEq

namespace Instant

/-- A date of the Gregorian calendar. -/
structure Date where
  year : Int
  month : Nat
  day : Nat
  deriving DecidableEq

/-- The date of a day, counted from the beginning of 1970. Years are taken to begin in March, so that
the leap day is the last day of a year and the months before it have a fixed pattern of lengths; an era
is 400 years. -/
def civil (days : Int) : Date :=
  let shifted := days + 719468
  let era := shifted.fdiv 146097
  let dayOfEra := (shifted.fmod 146097).toNat
  let yearOfEra := (dayOfEra - dayOfEra / 1460 + dayOfEra / 36524 - dayOfEra / 146096) / 365
  let dayOfYear := dayOfEra - (365 * yearOfEra + yearOfEra / 4 - yearOfEra / 100)
  let slot := (5 * dayOfYear + 2) / 153
  let month := if slot < 10 then slot + 3 else slot - 9
  let year := (yearOfEra : Int) + era * 400
  ⟨if month ≤ 2 then year + 1 else year, month, dayOfYear - (153 * slot + 2) / 5 + 1⟩

/-- A number with zeros in front, up to a width. -/
def padded (width n : Nat) : String :=
  let digits := Nat.toDigits 10 n
  String.ofList (List.replicate (width - digits.length) '0' ++ digits)

/-- The written form of an instant, ending in `utc`. -/
def render (utc : String) (t : Instant) : String :=
  let seconds := t.micros.fdiv 1000000
  let fraction := (t.micros.fmod 1000000).toNat
  let date := civil (seconds.fdiv 86400)
  let clock := (seconds.fmod 86400).toNat
  let dateText := s!"{padded 4 date.year.toNat}-{padded 2 date.month}-{padded 2 date.day}"
  let clockText :=
    s!"{padded 2 (clock / 3600)}:{padded 2 (clock / 60 % 60)}:{padded 2 (clock % 60)}"
  let fractionText := if fraction = 0 then "" else "." ++ padded 6 fraction
  dateText ++ "T" ++ clockText ++ fractionText ++ utc

/-- The form of documents. -/
def inDocument (t : Instant) : String :=
  t.render "Z"

/-- The form of log records and threat records. -/
def inRecord (t : Instant) : String :=
  t.render "+00:00"

example : civil 0 = ⟨1970, 1, 1⟩ ∧ civil 11016 = ⟨2000, 2, 29⟩ ∧ civil (-1) = ⟨1969, 12, 31⟩ := by
  decide

end Instant

end SourceWatch
