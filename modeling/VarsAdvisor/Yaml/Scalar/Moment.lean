import VarsAdvisor.Yaml.Scalar.Atom
import VarsAdvisor.Yaml.Scalar.Resolution

/-!
# Days and moments

The value of a timestamp: a day of the calendar, or a moment of a day. A moment with an offset from
universal time is another one than the moment without it. The form of a timestamp does not say that
its parts are in range.
-/

namespace VarsAdvisor.Yaml

/-- The value of ASCII digits. -/
def numberOf (ds : List Char) : Nat :=
  ds.foldl (fun n d => n * 10 + (d.toNat - 48)) 0

/-- A year with a 29th of February. -/
def isLeapYear (y : Nat) : Bool :=
  (y % 4 == 0 && y % 100 != 0) || y % 400 == 0

/-- The number of days of a month. -/
def daysIn (year month : Nat) : Nat :=
  if month = 2 then (if isLeapYear year then 29 else 28)
  else if month = 4 ∨ month = 6 ∨ month = 9 ∨ month = 11 then 30
  else 31

/-- Parts of a day in their ranges; the first that is not is reported. -/
def checkDay (year month day : Nat) : Except Mishap Unit :=
  if year = 0 then .error (.calendar (.year year))
  else if month = 0 ∨ 12 < month then .error (.calendar .month)
  else if day = 0 ∨ daysIn year month < day then .error (.calendar .day)
  else .ok ()

/-- Parts of a time of day in their ranges. -/
def checkTime (hour minute second : Nat) : Except Mishap Unit :=
  if 23 < hour then .error (.calendar .hour)
  else if 59 < minute then .error (.calendar .minute)
  else if 59 < second then .error (.calendar .second)
  else .ok ()

/-- The minutes from the start of the year 1 to a time of a day. -/
def minutesAt (year month day hour minute : Nat) : Nat :=
  let y := year - 1
  let beforeYear := y * 365 + y / 4 - y / 100 + y / 400
  let beforeMonth := ((List.range (month - 1)).map fun m => daysIn year (m + 1)).foldl (· + ·) 0
  ((beforeYear + beforeMonth + (day - 1)) * 24 + hour) * 60 + minute

/-- The microseconds of a fraction of a second, from its first six digits; the seventh rounds. -/
def microseconds (fraction : List Char) : Nat :=
  let digits := fraction.take 6
  let n := numberOf (digits ++ List.replicate (6 - digits.length) '0')
  if ((fraction[6]?).any (· > '4')) then n + 1 else n

/-- The microseconds from the start of the year 1 to the end of the year 9999. -/
def lastMicrosecond : Nat :=
  (minutesAt 9999 12 31 23 59 + 1) * 60000000

/-- The minutes of an offset; less than a day, in either direction. -/
def readOffset (offset : Bool × List Char × List Char) : Except Mishap Int :=
  let (negative, hour, minute) := offset
  let n := numberOf hour * 60 + numberOf minute
  let minutes : Int := if negative then -(Int.ofNat n) else n
  if n < 1440 then .ok minutes else .error (.calendar (.offset minutes))

/-- The value of a timestamp. A fraction that rounds up to the next second may lead out of the
calendar; an offset may not. -/
def readMoment (t : TimestampForm) : Except Mishap Atom := do
  let year := numberOf t.year
  let month := numberOf t.month
  let day := numberOf t.day
  match t.time with
  | none => do
    checkDay year month day
    pure (.day year month day)
  | some (h, m, s) => do
    let offset ← t.offset.mapM readOffset
    let hour := numberOf h
    let minute := numberOf m
    checkDay year month day
    checkTime hour minute (numberOf s)
    let moment := (minutesAt year month day hour minute * 60 + numberOf s) * 1000000 +
      microseconds t.fraction
    if lastMicrosecond ≤ moment then .error .dateOverflow
    else pure (.moment (moment - offset.getD 0 * 60000000) offset.isSome)

end VarsAdvisor.Yaml
