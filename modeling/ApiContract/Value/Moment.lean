import ApiContract.Value

/-!
Days and times of day as text: numbers of fixed width between hyphens, colons and points. A time
shows its microseconds if there are any, and its distance from universal time if that is known.
-/

namespace ApiContract

/-! ### The calendar -/

/-- Whether a year has a day more than others. -/
def isLeapYear (year : Nat) : Bool := year % 4 == 0 && (year % 100 != 0 || year % 400 == 0)

/-- How many days a month has. -/
def daysIn (year month : Nat) : Nat :=
  if month = 2 then if isLeapYear year then 29 else 28
  else if [4, 6, 9, 11].contains month then 30 else 31

/-- Why there is no such day, if there is none. -/
def Date.fault? (d : Date) : Option String :=
  if d.year = 0 then some "year 0 is out of range"
  else if d.month = 0 ∨ 12 < d.month then some "month must be in 1..12"
  else if d.day = 0 ∨ daysIn d.year d.month < d.day then some "day is out of range for month"
  else none

/-- Why there is no such time of day, if there is none. -/
def TimeOfDay.fault? (t : TimeOfDay) : Option String :=
  if 23 < t.hour then some "hour must be in 0..23"
  else if 59 < t.minute then some "minute must be in 0..59"
  else if 59 < t.second then some "second must be in 0..59"
  else none

/-- The seconds of a day. -/
def daySeconds : Nat := 86400

/-- Whether a distance from universal time is less than a day. -/
def isOffset (seconds : Int) : Bool := seconds.natAbs < daySeconds

/-- How many days come before the given one, from the first day of the first year on. -/
def Date.number (d : Date) : Nat :=
  let y := d.year - 1
  let months := (List.range (d.month - 1)).map fun m => daysIn d.year (m + 1)
  365 * y + y / 4 - y / 100 + y / 400 + months.foldl (· + ·) 0 + (d.day - 1)

/-- How many seconds come before a moment, whatever the distance from universal time. -/
def secondsOf (d : Date) (t : TimeOfDay) : Int :=
  (d.number * daySeconds + t.hour * 3600 + t.minute * 60 + t.second : Nat)

/-! ### As text -/

/-- A number with at least so many digits. -/
def padded (width n : Nat) : String :=
  let ds := (Nat.repr n).toList
  String.ofList (List.replicate (width - ds.length) '0' ++ ds)

/-- A day as text. -/
def Date.text (d : Date) : String :=
  padded 4 d.year ++ "-" ++ padded 2 d.month ++ "-" ++ padded 2 d.day

/-- The distance from universal time as text. -/
def offsetText (seconds : Int) : String :=
  let n := seconds.natAbs
  let s := n % 60
  (if seconds < 0 then "-" else "+") ++ padded 2 (n / 3600) ++ ":" ++ padded 2 (n / 60 % 60) ++
    (if s = 0 then "" else ":" ++ padded 2 s)

/-- A time of day as text. -/
def TimeOfDay.text (t : TimeOfDay) : String :=
  padded 2 t.hour ++ ":" ++ padded 2 t.minute ++ ":" ++ padded 2 t.second ++
    (if t.microsecond = 0 then "" else "." ++ padded 6 t.microsecond) ++
    ((t.offset.map offsetText).getD "")

end ApiContract
