/-!
# Daily log files

Log files are kept by day: the name of a file ends with the date of its lines, in universal
time. A date is computed from the seconds since the beginning of 1970. Years are counted
from March, so that the leap day is the last of its year.
-/

namespace QuadPort.Log.Daily

structure Date where
  year : Int
  month : Nat
  day : Nat
  deriving DecidableEq, Repr

/-- Days from the first of March of the year zero to the beginning of 1970. -/
def epoch : Int := 719468

def cycle : Int := 146097

/-- The date of a day that is counted from the beginning of 1970. -/
def ofDay (day : Int) : Date :=
  let shifted := day + epoch
  let inCycle := (shifted % cycle).toNat
  let year := (inCycle - inCycle / 1460 + inCycle / 36524 - inCycle / 146096) / 365
  let inYear := inCycle - (365 * year + year / 4 - year / 100)
  let month := (5 * inYear + 2) / 153
  { year := year + 400 * (shifted / cycle) + if month < 10 then 0 else 1
    month := if month < 10 then month + 3 else month - 9
    day := inYear - (153 * month + 2) / 5 + 1 }

example : ofDay 11016 = ⟨2000, 2, 29⟩ := by decide

def ofSeconds (seconds : Int) : Date :=
  ofDay (seconds / 86400)

def twoDigits (number : Nat) : String :=
  if number < 10 then s!"0{number}" else toString number

def Date.text (date : Date) : String :=
  s!"{date.year}-{twoDigits date.month}-{twoDigits date.day}"

def fileName (base : String) (date : Date) : String :=
  s!"{base}.{date.text}"

end QuadPort.Log.Daily
