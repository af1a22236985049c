import Triage.Time.Date
import Triage.Time.Duration

/-!
# Moments

A moment is a reading of a wall clock in the years 1 to 9999, to the microsecond, with or without
the offset of that clock from UTC. Here are its arithmetic and its two texts: the ISO form, and the
timestamp in UTC that search queries carry.
-/

namespace Triage

/-- The microseconds of a day, and of all the days there are. -/
def Moment.dayTicks : Nat := 86400000000
def Moment.maxTicks : Nat := Date.dayCount * Moment.dayTicks

theorem Moment.maxTicks_pos : 0 < Moment.maxTicks := by decide

/-- `ticks` counts the microseconds on the clock since the start of year 1; `offset` is in
microseconds east of UTC. -/
structure Moment where
  ticks : Nat
  offset : Option Int
  ticks_lt : ticks < Moment.maxTicks
  deriving DecidableEq, Repr

namespace Moment

/-- The moment with the given count of microseconds, unless it lies outside the calendar. -/
def ofTicks? (ticks : Int) (offset : Option Int) : Option Moment :=
  if h : 0 ≤ ticks ∧ ticks.toNat < maxTicks then some ⟨ticks.toNat, offset, h.2⟩ else none

def date (m : Moment) : Date := Date.ofDayNumber (m.ticks / dayTicks)
def secondOfDay (m : Moment) : Nat := m.ticks % dayTicks / 1000000
def microsecond (m : Moment) : Nat := m.ticks % 1000000

/-- The reading of the same clock a duration earlier. -/
def minus? (m : Moment) (d : Duration) : Option Moment :=
  ofTicks? (m.ticks - 1000000 * d.seconds) m.offset

/-- The same instant on the clock of UTC; a moment without an offset is taken to be in UTC. -/
def toUtc? (m : Moment) : Option Moment :=
  ofTicks? (m.ticks - m.offset.getD 0) (some 0)

def clockText (m : Moment) : List Char :=
  let s := m.secondOfDay
  Text.padded 2 (s / 3600) ++ ':' :: Text.padded 2 (s / 60 % 60) ++ ':' :: Text.padded 2 (s % 60)

/-- The timestamp of the reading itself. Years are not filled with zeros. -/
def wallText (m : Moment) : List Char := m.date.text 1 ++ 'T' :: m.clockText ++ ['Z']

/-- The instant as a UTC timestamp of whole seconds, as search queries take it. -/
def timestamp? (m : Moment) : Option String := m.toUtc?.map fun u => String.ofList u.wallText

/-- Hours and minutes; what is finer is written only when there is any. -/
def offsetText (offset : Int) : List Char :=
  let micro := offset.natAbs % 1000000
  let n := offset.natAbs / 1000000
  let fraction := if micro = 0 then [] else '.' :: Text.padded 6 micro
  let tail := if n % 60 = 0 ∧ micro = 0 then [] else ':' :: Text.padded 2 (n % 60) ++ fraction
  (if offset < 0 then '-' else '+') :: (Text.padded 2 (n / 3600) ++
    ':' :: (Text.padded 2 (n / 60 % 60) ++ tail))

/-- The ISO form with the given separator: microseconds only when there are any, the offset only
when it is known. -/
def isoTextWith (separator : Char) (m : Moment) : String :=
  let fraction := if m.microsecond = 0 then [] else '.' :: Text.padded 6 m.microsecond
  let zone := (m.offset.map offsetText).getD []
  String.ofList (m.date.text 4 ++ separator :: m.clockText ++ fraction ++ zone)

def isoText (m : Moment) : String := isoTextWith 'T' m

def ofParts? (d : Date) (hour minute second micro : Nat) (offset : Option Int) : Option Moment :=
  if d.isValid && hour < 24 && minute < 60 && second < 60 && micro < 1000000 then
    ofTicks? (d.dayNumber * dayTicks + ((hour * 60 + minute) * 60 + second) * 1000000 + micro : Nat)
      offset
  else none

/-- The number that exactly `width` ASCII digits at the front denote. -/
def digitsAt? (width : Nat) (cs : List Char) : Option (Nat × List Char) :=
  let ds := cs.take width
  if ds.length = width && ds.all Char.isDigit then some (Text.numeralIn 10 ds, cs.drop width)
  else none

/-- What is wrong with a text that should be a date. -/
inductive DateTextFault where
  | tooShort
  | year
  | separator
  | month
  | day
  | monthRange
  | dayRange
  | extra
  deriving DecidableEq, Repr

def DateTextFault.message : DateTextFault → String
  | .tooShort => "input is too short"
  | .year => "invalid character in year"
  | .separator => "invalid date separator, expected `-`"
  | .month => "invalid character in month"
  | .day => "invalid character in day"
  | .monthRange => "month value is outside expected range of 1-12"
  | .dayRange => "day value is outside expected range"
  | .extra => "unexpected extra characters at the end of the input"

/-- A date of the form `YYYY-MM-DD` at the front of a text. -/
def readDate (cs : List Char) : Except DateTextFault (Date × List Char) :=
  if (String.ofList cs).utf8ByteSize < 10 then .error .tooShort
  else
    match digitsAt? 4 cs with
    | none => .error .year
    | some (year, afterYear) =>
      match afterYear with
      | '-' :: monthText =>
        match digitsAt? 2 monthText with
        | none => .error .month
        | some (month, afterMonth) =>
          match afterMonth with
          | '-' :: dayText =>
            match digitsAt? 2 dayText with
            | none => .error .day
            | some (day, rest) =>
              if month < 1 || 12 < month then .error .monthRange
              else if day < 1 || Date.daysInMonth year month < day then .error .dayRange
              else .ok (⟨year, month, day⟩, rest)
          | _ => .error .separator
      | _ => .error .separator

/-- The microseconds of a fraction of a second; digits beyond the sixth are dropped. -/
def fractionOf (digits : List Char) : Nat :=
  let six := digits.take 6
  Text.numeralIn 10 six * Nat.pow 10 (6 - six.length)

def readSeconds (cs : List Char) : Option ((Nat × Nat) × List Char) :=
  match cs with
  | ':' :: rest =>
    (digitsAt? 2 rest).bind fun (second, afterSecond) =>
      match afterSecond with
      | p :: digits =>
        if p = '.' || p = ',' then
          let ds := digits.takeWhile Char.isDigit
          if ds = [] then none
          else some ((second, fractionOf ds), digits.dropWhile Char.isDigit)
        else some ((second, 0), afterSecond)
      | [] => some ((second, 0), [])
  | _ => some ((0, 0), cs)

/-- The offset at the end of a moment's text, which must be all that is left. -/
def readOffset (cs : List Char) : Option (Option Int) :=
  match cs with
  | [] => some none
  | ['Z'] => some (some 0)
  | ['z'] => some (some 0)
  | sign :: rest =>
    if sign = '+' || sign = '-' || sign = '\u2212' then
      (digitsAt? 2 rest).bind fun (hours, afterHours) =>
        (digitsAt? 2 (if afterHours.head? = some ':' then afterHours.drop 1 else afterHours)).bind
          fun (minutes, afterMinutes) =>
            let east : Int := (hours * 60 + minutes) * 60000000
            if afterMinutes = [] && minutes < 60 && hours < 24 then
              some (some (if sign = '+' then east else -east))
            else none
    else none

/-- A time of day as it is written, with its offset; without one it is midnight. -/
structure ClockReading where
  hour : Nat := 0
  minute : Nat := 0
  second : Nat := 0
  micro : Nat := 0
  offset : Option Int := none

def ClockReading.on? (c : ClockReading) (d : Date) : Option Moment :=
  ofParts? d c.hour c.minute c.second c.micro c.offset

def readClock? (cs : List Char) : Option ClockReading := do
  let (hour, afterHour) ← digitsAt? 2 cs
  let minuteText ← if afterHour.head? = some ':' then some (afterHour.drop 1) else none
  let (minute, afterMinute) ← digitsAt? 2 minuteText
  let ((second, micro), rest) ← readSeconds afterMinute
  let offset ← readOffset rest
  if hour < 24 && minute < 60 && second < 60 then some ⟨hour, minute, second, micro, offset⟩ else none

/-- What may stand between a date and a time of day. -/
def isDateEnd (c : Char) : Bool := c ∈ ['T', 't', ' ', '_']

/-- A moment in ISO form; a date alone means its midnight. -/
def readIso (text : String) : Except DateTextFault Moment :=
  match readDate text.toList with
  | .error e => .error e
  | .ok (d, []) => ((ClockReading.on? {} d)).elim (.error .dayRange) .ok
  | .ok (d, separator :: clock) =>
    if isDateEnd separator then
      ((readClock? clock).bind (·.on? d)).elim (.error .extra) .ok
    else .error .extra

/-- The start of 1970 in days since the start of year 1. -/
def epochDay : Nat := 719162

/-- The instant a count of microseconds since 1970 names, in UTC. -/
def ofUnixMicros? (micros : Int) : Option Moment :=
  ofTicks? (micros + epochDay * dayTicks) (some 0)

end Moment

end Triage
