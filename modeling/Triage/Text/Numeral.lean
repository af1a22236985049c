import Triage.Text.Blank
import Triage.Text.Digit

/-!
# Numerals and their greatest length

Integers are read from decimal texts and written as such up to a greatest number of digits, so that
no long text keeps a program busy. Every digit counts, leading zeros as well; signs and the
underscores between digits do not.
-/

namespace Triage

/-- The most digits that a numeral may have; without a number there is no bound. -/
abbrev DigitLimit := Option Nat

/-- The limit that is in force unless another one is given. -/
def DigitLimit.standard : DigitLimit := some 4300

/-- Why an integer is not converted. -/
inductive NumeralFault where
  /-- A text has more digits than the limit. -/
  | longText (limit digits : Nat)
  /-- The text of a number would have more digits than the limit. -/
  | longNumber (limit : Nat)
  deriving DecidableEq, Repr

def NumeralFault.message : NumeralFault → String
  | .longText limit digits =>
    s!"Exceeds the limit ({limit} digits) for integer string conversion: value has {digits} digits; use sys.set_int_max_str_digits() to increase the limit"
  | .longNumber limit =>
    s!"Exceeds the limit ({limit} digits) for integer string conversion; use sys.set_int_max_str_digits() to increase the limit"

namespace DigitLimit

/-- The fault of a text with the given number of digits. -/
def textFault? (limit : DigitLimit) (digits : Nat) : Option NumeralFault :=
  limit.bind fun most => if most < digits then some (.longText most digits) else none

def numberFault? (limit : DigitLimit) (n : Int) : Option NumeralFault :=
  limit.bind fun most => if n.natAbs < Nat.pow 10 most then none else some (.longNumber most)

end DigitLimit

namespace Text

def readNumeral (limit : DigitLimit) (ds : List Char) : Except NumeralFault Nat :=
  match limit.textFault? ds.length with
  | some fault => .error fault
  | none => .ok (numeral ds)

theorem readNumeral_none (ds : List Char) : readNumeral none ds = .ok (numeral ds) := rfl

/-- The value of a digit below the base: a decimal digit of any script, or an ASCII letter. -/
def digitIn? (base : Nat) (c : Char) : Option Nat :=
  ((digit? c).or (asciiDigit? c)).filter (· < base)

/-- Whether underscores stand between digits only, one at a time. -/
def isGrouped : List Char → Bool
  | [] => false
  | [c] => c ≠ '_'
  | c :: d :: cs => c ≠ '_' && if d = '_' then isGrouped cs else isGrouped (d :: cs)

/-- Why a text is not read as an integer. -/
inductive IntegerFault where
  | malformed
  | numeral (fault : NumeralFault)
  deriving DecidableEq, Repr

/-- The letter that follows a zero to announce a base. -/
def baseLetters : Nat → List Char
  | 2 => ['b', 'B']
  | 8 => ['o', 'O']
  | 16 => ['x', 'X']
  | _ => []

/-- The text after an announcement of the base, which an underscore may follow. -/
def dropBase (base : Nat) : List Char → List Char
  | '0' :: letter :: rest =>
    if letter ∈ baseLetters base then (if rest.head? = some '_' then rest.drop 1 else rest)
    else '0' :: letter :: rest
  | cs => cs

/-- The magnitude of an integer's text after its sign. The limit is for decimal texts; it comes
before what is wrong behind the digits. -/
def readMagnitude (limit : DigitLimit) (base : Nat) (cs : List Char) : Except IntegerFault Nat :=
  let body := dropBase base cs
  let isPart (c : Char) : Bool := c = '_' || (digitIn? base c).isSome
  let run := body.takeWhile isPart
  let digits := run.filter (· ≠ '_')
  if !isGrouped run then .error .malformed
  else
    match if base = 10 then limit.textFault? digits.length else none with
    | some fault => .error (.numeral fault)
    | none =>
      if run.length < body.length then .error .malformed
      else .ok (digits.foldl (fun n c => base * n + (digitIn? base c).getD 0) 0)

/-- The integer that a text denotes: white space around it and a sign are allowed, and single
underscores between digits. -/
def readInteger (limit : DigitLimit) (base : Nat) (cs : List Char) : Except IntegerFault Int :=
  match trimBy isSpace cs with
  | '-' :: body => (readMagnitude limit base body).map fun n => -(n : Int)
  | '+' :: body => (readMagnitude limit base body).map fun n => (n : Int)
  | body => (readMagnitude limit base body).map fun n => (n : Int)

end Text

end Triage
