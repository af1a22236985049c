import Triage.Number.Arithmetic
import Triage.Number.Reading
import Triage.Time.Moment

/-!
# Timestamps and dates in payloads

A moment may be given as a count of seconds since 1970, or of milliseconds when the count is beyond
twenty thousand million, or as a text: in ISO form, as such a count, or as a date alone.
-/

namespace Triage.Moment

/-- Why a count or a date is no moment. -/
inductive RangeFault where
  | tooLate
  | tooEarly
  | notNumber
  | yearZero
  deriving DecidableEq, Repr

def RangeFault.message : RangeFault → String
  | .tooLate => "dates after 9999 are not supported as unix timestamps"
  | .tooEarly => "dates before 0000 are not supported as unix timestamps"
  | .notNumber => "NaN values not permitted"
  | .yearZero => "year 0 is out of range"

/-- The greatest count that is one of seconds. -/
def secondsLimit : Nat := 20000000000

/-- The first second of year 0 and the last one of year 9999, since 1970. -/
def firstSecond : Int := -62167219200
def lastSecond : Int := 253402300799

/-- The moment in UTC that lies some seconds and microseconds after the start of 1970. -/
def ofUnix (seconds : Int) (micros : Nat) : Except RangeFault Moment :=
  let second := seconds + micros / 1000000
  if second < firstSecond then .error .tooEarly
  else if lastSecond < second then .error .tooLate
  else
    let since := second * 1000000 + (micros % 1000000 : Nat)
    (ofUnixMicros? since).elim (.error .yearZero) .ok

def ofCount (count : Int) : Except RangeFault Moment :=
  if count.natAbs ≤ secondsLimit then ofUnix count 0
  else ofUnix (Int.fdiv count 1000) ((Int.fmod count 1000).toNat * 1000)

/-- The moment of a count with a fraction. Milliseconds are first turned into seconds; what is left
above the whole second below is rounded to microseconds, and may make up a second of its own. -/
def ofFloatCount : Binary64 → Except RangeFault Moment
  | .nan => .error .notNumber
  | .infinite negative => .error (if negative then .tooEarly else .tooLate)
  | x =>
    let seconds := if x.exceeds secondsLimit then x.div (.ofInt 1000) else x
    let whole := (seconds.floor?).getD 0
    let micros := ((seconds.sub (.ofInt whole)).mul (.ofInt 1000000)).roundMagnitude
    ofUnix whole micros

/-- A count as a text: a sign, digits, and perhaps a point with further digits and an exponent. -/
inductive CountText where
  | whole (n : Int)
  | decimal (x : Binary64)

/-- The count that a text gives. The digits before the point stay below `2 ^ 63`; without a point
there is no exponent, and all digits are ASCII. -/
def countText? (cs : List Char) : Option CountText :=
  let (negative, body) :=
    match cs with
    | '-' :: rest => (true, rest)
    | '+' :: rest => (false, rest)
    | _ => (false, cs)
  let digits := body.takeWhile Char.isDigit
  let n : Int := Text.numeralIn 10 digits
  if 0x8000000000000000 ≤ n then none
  else
    match body.drop digits.length with
    | [] => if digits = [] then none else some (.whole (if negative then -n else n))
    | '.' :: rest =>
      if rest.all fun c => c.toNat < 128 then
        (Binary64.decimalText? negative body).map .decimal
      else none
    | _ => none

def CountText.moment : CountText → Except RangeFault Moment
  | .whole n => ofCount n
  | .decimal x => ofFloatCount x

/-- Why a text is no moment. -/
inductive TextFault where
  /-- It is no date either. -/
  | date (fault : DateTextFault)
  /-- It is a whole count that lies outside the calendar. -/
  | count (fault : RangeFault)
  /-- It is a moment of a year that there is not. -/
  | range (fault : RangeFault)
  deriving DecidableEq, Repr

/-- The moment of a date and a clock that were read; year 0 can be written and does not exist. -/
def ofReading (d : Date) (c : ClockReading) : Except TextFault Moment :=
  if d.year = 0 then .error (.range .yearZero)
  else (c.on? d).elim (.error (.date .extra)) .ok

/-- The moment of a text that is no date in ISO form: it may still be a count. A count in year 0 is
read and names no moment; one further out is not read at all. -/
def ofCountText (cs : List Char) (fault : DateTextFault) : Except TextFault Moment :=
  match countText? cs with
  | none => .error (.date fault)
  | some text =>
    match text.moment, text with
    | .ok m, _ => .ok m
    | .error .yearZero, _ => .error (.range .yearZero)
    | .error range, .whole _ => .error (.count range)
    | .error _, .decimal _ => .error (.date fault)

/-- The moment that a text gives; a date alone means its midnight. -/
def ofText (text : String) : Except TextFault Moment :=
  let cs := text.toList
  match readDate cs with
  | .error fault => ofCountText cs fault
  | .ok (d, []) => ofReading d {}
  | .ok (d, separator :: clock) =>
    match if isDateEnd separator then readClock? clock else none with
    | some c => ofReading d c
    | none => .error (.date .extra)

/-- The moment of an integer. One of more than 64 bits is rounded first, and has no meaning when it is
beyond all numbers with a fraction. -/
def ofInteger? (n : Int) : Option (Except RangeFault Moment) :=
  if -0x8000000000000000 ≤ n ∧ n < 0x8000000000000000 then some (ofCount n)
  else
    match Binary64.ofInt n with
    | .infinite _ => none
    | x => some (ofFloatCount x)

end Triage.Moment
