/-
Points in time by the calendar.

Days are counted from the first of March of a year that 400 divides, so that a leap day is
the last of its year, and four hundred years are always as long.
-/
import FindingLedger.Datum

namespace FindingLedger

namespace Calendar

/-- The number of days in four hundred years. -/
def eraDays : Int := 146097

/-- The number of days between the first of March of the year zero and the start of the
year 1970. -/
def epochOffset : Int := 719468

/-- The year, counted from March on, of a day of an era. -/
def yearOfEra (day : Nat) : Nat :=
  (day - day / 1460 + day / 36524 - day / 146096) / 365

/-- The day that is so many days after the first of January 1970. -/
def dayOf (n : Int) : Day :=
  let shifted := n + epochOffset
  let era := Int.fdiv shifted eraDays
  let day := (Int.fmod shifted eraDays).toNat
  let year := yearOfEra day
  let dayOfYear := day - (365 * year + year / 4 - year / 100)
  let month := (5 * dayOfYear + 2) / 153
  let calendarMonth := if month < 10 then month + 3 else month - 9
  let late := if calendarMonth ≤ 2 then 1 else 0
  ⟨(era * 400 + year + late).toNat, calendarMonth, dayOfYear - (153 * month + 2) / 5 + 1⟩

/-- The point in time that is so many millionths of a second after the start of the year
1970. -/
def momentOf (micros : Int) : Moment :=
  let seconds := Int.fdiv micros 1000000
  let clock := (Int.fmod seconds 86400).toNat
  { day := dayOf (Int.fdiv seconds 86400)
    hour := clock / 3600
    minute := clock / 60 % 60
    second := clock % 60
    micro := (Int.fmod micros 1000000).toNat
    offset := none }

/-- The start of the count, and a leap day. -/
example : dayOf 0 = ⟨1970, 1, 1⟩ ∧ dayOf 11016 = ⟨2000, 2, 29⟩ := by decide

end Calendar

end FindingLedger
