import Triage.Text.Digit

/-!
# Dates

The proleptic Gregorian calendar of the years 1 to 9999. A date corresponds to the number of days
since the first day of year 1.
-/

namespace Triage

structure Date where
  year : Nat
  month : Nat
  day : Nat
  deriving DecidableEq, Repr

namespace Date

def isLeap (year : Nat) : Bool := year % 4 == 0 && (year % 100 != 0 || year % 400 == 0)

def monthLengths (year : Nat) : List Nat :=
  [31, if isLeap year then 29 else 28, 31, 30, 31, 30, 31, 31, 30, 31, 30, 31]

def daysInMonth (year month : Nat) : Nat := ((monthLengths year)[month - 1]?).getD 0

/-- What is wrong with a date outside the calendar. -/
inductive Fault where
  | year
  | month
  | day
  deriving DecidableEq, Repr

def fault? (d : Date) : Option Fault :=
  if d.year < 1 || 9999 < d.year then some .year
  else if d.month < 1 || 12 < d.month then some .month
  else if d.day < 1 || daysInMonth d.year d.month < d.day then some .day
  else none

def isValid (d : Date) : Bool := d.fault?.isNone

def daysBeforeYear (year : Nat) : Nat :=
  let y := year - 1
  365 * y + y / 4 - y / 100 + y / 400

def daysBeforeMonth (year month : Nat) : Nat := ((monthLengths year).take (month - 1)).foldl (· + ·) 0

def dayNumber (d : Date) : Nat := daysBeforeYear d.year + daysBeforeMonth d.year d.month + (d.day - 1)

/-- The days of the years 1 to 9999. -/
def dayCount : Nat := 3652059

/-- The year that the day belongs to, and the days of that year before it: whole cycles of 400
years, centuries, cycles of four years and years are taken off in turn. -/
def yearAndRest (n : Nat) : Nat × Nat :=
  let n400 := n / 146097
  let r400 := n % 146097
  let n100 := min 3 (r400 / 36524)
  let r100 := r400 - 36524 * n100
  let n4 := r100 / 1461
  let r4 := r100 % 1461
  let n1 := min 3 (r4 / 365)
  (400 * n400 + 100 * n100 + 4 * n4 + n1 + 1, r4 - 365 * n1)

/-- Counts the remaining days through the months that are left. -/
def monthAndDay : List Nat → Nat → Nat → Nat × Nat
  | [], month, rest => (month, rest + 1)
  | length :: later, month, rest =>
    if rest < length then (month, rest + 1) else monthAndDay later (month + 1) (rest - length)

def ofDayNumber (n : Nat) : Date :=
  let y := yearAndRest n
  let md := monthAndDay (monthLengths y.1) 1 y.2
  ⟨y.1, md.1, md.2⟩

/-- Year, month and day between dashes, the year written in at least the given width. -/
def text (yearWidth : Nat) (d : Date) : List Char :=
  Text.padded yearWidth d.year ++ '-' :: Text.padded 2 d.month ++ '-' :: Text.padded 2 d.day

end Date

end Triage
