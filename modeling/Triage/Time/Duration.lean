import Triage.Text.Numeral

/-!
# Durations

A duration is written as an amount and a unit: `5 minutes`, `2 weeks`, `3 M`. Months count as 30 days
and years as 365.
-/

namespace Triage

/-- A span of whole seconds, shorter than a thousand million days. -/
structure Duration where
  seconds : Nat
  seconds_lt : seconds < 86400000000000
  deriving DecidableEq, Repr

namespace Duration

inductive Fault where
  | malformed (text : String)
  | unknownUnit (unit text : String)
  | numeral (fault : NumeralFault)
  /-- The amount and unit make this many whole days. -/
  | tooLong (days : Nat)
  deriving DecidableEq, Repr

def mostDays : Nat := 999999999

/-- Days beyond 32 bits are not even counted. -/
def tooLongMessage (days : Nat) : String :=
  if 0x80000000 ≤ days then "Python int too large to convert to C int"
  else s!"days={days}; must have magnitude <= {mostDays}"

def Fault.isTooLong : Fault → Bool
  | .tooLong _ => true
  | _ => false

def Fault.message : Fault → String
  | .malformed text =>
    s!"Invalid duration '{text}'. Expected '<amount> <unit>', e.g. '5 minutes' or '2 weeks'"
  | .unknownUnit unit text =>
    s!"Unknown duration unit '{unit}' in '{text}'. Supported units: seconds, minutes, hours, days, weeks, months, years"
  | .numeral fault => fault.message
  | .tooLong days => tooLongMessage days

/-- The one-letter units. Their case matters: `M` is a month and `m` a minute. -/
def shortUnit? : List Char → Option Nat
  | ['s'] => some 1
  | ['m'] => some 60
  | ['h'] => some 3600
  | ['d'] => some 86400
  | ['w'] => some 604800
  | ['M'] => some 2592000
  | ['y'] => some 31536000
  | _ => none

/-- The units written out, in lower case and in the singular. -/
def longUnits : List (List Char × Nat) :=
  [("second".toList, 1), ("minute".toList, 60), ("hour".toList, 3600), ("day".toList, 86400),
    ("week".toList, 604800), ("month".toList, 2592000), ("year".toList, 31536000)]

def singular (cs : List Char) : List Char :=
  if cs.getLast? = some 's' then cs.dropLast else cs

def longUnit? (unit : List Char) : Option Nat :=
  longUnits.lookup (singular (unit.map Char.toLower))

def unitSeconds? (unit : List Char) : Option Nat := (shortUnit? unit).or (longUnit? unit)

/-- Amount and unit of a duration text: digits, then ASCII letters, with blanks around both. -/
def split? (cs : List Char) : Option (List Char × List Char) :=
  let cs := cs.dropWhile Text.isBlank
  let amount := cs.takeWhile Text.isDigit
  let rest := (cs.dropWhile Text.isDigit).dropWhile Text.isBlank
  let unit := rest.takeWhile Char.isAlpha
  if amount = [] ∨ unit = [] ∨ (rest.dropWhile Char.isAlpha).all Text.isBlank = false then none
  else some (amount, unit)

/-- The duration of a text, whose amount may have so many digits. -/
def parseWithin (limit : DigitLimit) (text : String) : Except Fault Duration :=
  match split? text.toList with
  | none => .error (.malformed text)
  | some (amount, unit) =>
    match Text.readNumeral limit amount, unitSeconds? unit with
    | .error fault, _ => .error (.numeral fault)
    | .ok _, none => .error (.unknownUnit (String.ofList unit) text)
    | .ok n, some length =>
      if h : n * length < 86400000000000 then .ok ⟨_, h⟩ else .error (.tooLong (n * length / 86400))

def parse (text : String) : Except Fault Duration := parseWithin .standard text

end Duration

end Triage
