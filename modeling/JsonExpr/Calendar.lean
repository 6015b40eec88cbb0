import JsonExpr.Script

-- Dates and times of day, and how a moment is written.
namespace JsonExpr

structure Date where
  year : Nat
  month : Nat
  day : Nat
deriving Repr, DecidableEq

namespace Date

-- The date some days after the first of March of the year 0. Years that begin in March end with the
-- leap day, so that the lengths of months follow a fixed rule.
def ofDaysFromMarch (days : Nat) : Date :=
  let era := days / 146097
  let dayOfEra := days % 146097
  let yearOfEra := (dayOfEra - dayOfEra / 1460 + dayOfEra / 36524 - dayOfEra / 146096) / 365
  let dayOfYear := dayOfEra - (365 * yearOfEra + yearOfEra / 4 - yearOfEra / 100)
  let monthFromMarch := (5 * dayOfYear + 2) / 153
  let day := dayOfYear - (153 * monthFromMarch + 2) / 5 + 1
  let year := era * 400 + yearOfEra
  if monthFromMarch < 10 then ⟨year, monthFromMarch + 3, day⟩
  else ⟨year + 1, monthFromMarch - 9, day⟩

-- The days from the first of March of the year 0 to the first of January 1970.
def daysToEpoch : Nat := 719468

end Date

namespace Calendar

def padded (width n : Nat) : String :=
  let digits := toString n
  String.ofList (List.replicate (width - digits.length) '0') ++ digits

-- The date and the time of day, some milliseconds after the beginning of 1970.
def dateTime (milliseconds : Nat) : String :=
  let seconds := milliseconds / 1000
  let date := Date.ofDaysFromMarch (seconds / 86400 + Date.daysToEpoch)
  let rest := seconds % 86400
  padded 4 date.year ++ "-" ++ padded 2 date.month ++ "-" ++ padded 2 date.day ++ "T" ++
    padded 2 (rest / 3600) ++ ":" ++ padded 2 (rest / 60 % 60) ++ ":" ++ padded 2 (rest % 60) ++
      "." ++ padded 3 (milliseconds % 1000)

-- A number of minutes as an offset from universal time.
def offset (minutes : Int) : String :=
  (if minutes < 0 then "-" else "+") ++ padded 2 (minutes.natAbs / 60) ++ ":" ++
    padded 2 (minutes.natAbs % 60)

end Calendar

namespace Moment

def universalText (moment : Moment) : String := Calendar.dateTime moment.milliseconds ++ "Z"

def localText (moment : Moment) : String :=
  Calendar.dateTime (moment.milliseconds + moment.localOffset * 60000).toNat ++
    Calendar.offset moment.localOffset

end Moment

end JsonExpr
