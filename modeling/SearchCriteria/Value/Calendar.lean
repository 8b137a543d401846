import SearchCriteria.Value.Basic

/-! Days counted through the years, and times that are the same moment on different clocks. -/
namespace SearchCriteria

def isLeapYear (year : Nat) : Bool := year % 4 == 0 && (year % 100 != 0 || year % 400 == 0)

def monthDays (year month : Nat) : Nat :=
  if month == 2 then if isLeapYear year then 29 else 28
  else if [4, 6, 9, 11].contains month then 30
  else 31

/-- How many days lie before a year, from year one on. -/
def daysBeforeYear (year : Nat) : Nat :=
  let n := year - 1
  365 * n + n / 4 + n / 400 - n / 100

/-- How many days of a year lie before a month of it. -/
def daysBeforeMonth (year month : Nat) : Nat :=
  (List.range (month - 1)).foldl (fun days m => days + monthDays year (m + 1)) 0

/-- The days up to a day, which is counted too. -/
def Date.dayNumber (d : Date) : Nat :=
  daysBeforeYear d.year + daysBeforeMonth d.year d.month + d.day

namespace Moment

/-- The minutes that a clock shows, since it started to count days. -/
def minutes (m : Moment) : Int := 1440 * m.date.dayNumber + 60 * m.hour + m.minute

/-- Whether two times are the same moment. Where the distance from universal time is known of
both, they may be told by different clocks; where it is known of one only, they are not
compared. -/
def simultaneous (m n : Moment) : Bool :=
  match m.offset, n.offset with
  | some o, some p =>
    m.minutes - o == n.minutes - p && m.second == n.second && m.microsecond == n.microsecond
  | _, _ => m == n

end Moment
end SearchCriteria
