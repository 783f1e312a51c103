import Vigil.Fault.Mishap
import Vigil.Number.Nearest
import Vigil.Text.Column

/-!
# Time stamps

A wall-clock time as a date and a time of day, in UTC, with milliseconds.
-/

namespace Vigil

/-- The year, month and day of a day, counted from 1 January 1970. Years are taken to start in
March, so that the leap day is the last one of a year. -/
def civil (day : Int) : Int × Nat × Nat :=
  let shifted := day + 719468
  let era := shifted.fdiv 146097
  let dayOfEra := (shifted - era * 146097).toNat
  let yearOfEra := (dayOfEra - dayOfEra / 1460 + dayOfEra / 36524 - dayOfEra / 146096) / 365
  let dayOfYear := dayOfEra - (365 * yearOfEra + yearOfEra / 4 - yearOfEra / 100)
  let fromMarch := (5 * dayOfYear + 2) / 153
  let dayOfMonth := dayOfYear - (153 * fromMarch + 2) / 5 + 1
  let month := if fromMarch < 10 then fromMarch + 3 else fromMarch - 9
  (yearOfEra + era * 400 + if month ≤ 2 then 1 else 0, month, dayOfMonth)

/-- The second a time falls into, and the milliseconds from the whole second before it, or from
the one after it if the time is negative. -/
def secondOf (time : Float) : Except Mishap (Int × Int) := do
  let whole ← (Number.truncate time).mapError Mishap.notWhole
  let start := (Number.ofInt? whole).getD time
  let second := if time < start then whole - 1 else whole
  let millis ← (Number.truncate ((time - start) * 1000)).mapError Mishap.notWhole
  pure (second, millis)

/-- A time in a log line. -/
def stamp (time : Float) : Except Mishap String := do
  let (second, millis) ← secondOf time
  if second < -0x8000000000000000 ∨ 0x8000000000000000 ≤ second then throw (.noTime time)
  let (year, month, day) := civil (second.fdiv 86400)
  if year - 1900 < -0x80000000 ∨ 0x80000000 ≤ year - 1900 then
    throw (.os ⟨some 75, "Value too large for defined data type", false, none⟩)
  if 0x80000000 ≤ year then throw .yearTooLarge
  let rest := (second.fmod 86400).toNat
  let two := Text.zeroPadded 2
  pure (s!"{year}-{two month}-{two day} {two (rest / 3600)}:{two (rest / 60 % 60)}:" ++
    s!"{two (rest % 60)},{Text.zeroPaddedInt 3 millis}")

end Vigil
