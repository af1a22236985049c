import Triage.Text.Blank
import Triage.Text.Digit
import Triage.Text.Find

/-!
# Integers as people write them

Fields and options take integers in a loose form: blanks around them, a plus sign, leading zeros,
underscores between the digits, and a fraction of zeros. Leading zeros go together with the
underscores among them, and a minus sign may still follow them. What is left must be the plain form
of an integer.
-/

namespace Triage.Text

inductive LooseFault where
  | unreadable
  /-- The plain form is longer than any integer that is taken. -/
  | huge
  deriving DecidableEq, Repr

def longestInteger : Nat := 4300

def isNonzeroDigit (c : Char) : Bool := c.isDigit && c ≠ '0'

/-- Drops the zeros and underscores that follow a zero. When nothing else is left, the last of these
characters stays. -/
def afterZero (last : Char) : List Char → Option (List Char)
  | [] => some [last]
  | c :: cs =>
    if c = '0' ∨ c = '_' then afterZero c cs
    else if isNonzeroDigit c ∨ c = '-' then some (c :: cs)
    else none

def dropZeros : List Char → Option (List Char)
  | [] => none
  | c :: cs =>
    if c = '0' then afterZero c cs else if isNonzeroDigit c ∨ c = '-' then some (c :: cs) else none

def hasDoubleUnderscore : List Char → Bool
  | a :: b :: cs => (a = '_' && b = '_') || hasDoubleUnderscore (b :: cs)
  | _ => false

/-- Drops the underscores where each of them stands between two characters. -/
def dropUnderscores (cs : List Char) : List Char :=
  if cs.head? = some '_' ∨ cs.getLast? = some '_' ∨ hasDoubleUnderscore cs then cs
  else cs.filter (· ≠ '_')

/-- Drops a point with nothing but zeros after it. -/
def dropZeroFraction (cs : List Char) : List Char :=
  match cut? ['.'] cs with
  | some (whole, fraction) => if fraction ≠ [] ∧ fraction.all (· = '0') then whole else cs
  | none => cs

/-- The integer in plain form: digits without leading zeros, and perhaps a minus sign. -/
def plainInteger? (cs : List Char) : Option Int :=
  let (negative, ds) := if cs.head? = some '-' then (true, cs.drop 1) else (false, cs)
  if ds ≠ [] ∧ ds.all Char.isDigit ∧ (ds.head? = some '0' → ds = ['0']) then
    let n : Int := numeralIn 10 ds
    some (if negative then -n else n)
  else none

def plainForm? (cs : List Char) : Option (List Char) := do
  let trimmed := trimBy isSpace cs
  let unsigned ←
    match trimmed with
    | '+' :: rest => if rest.head? = some '-' then none else some rest
    | _ => some trimmed
  let whole := dropZeroFraction unsigned
  let negative := whole.head? = some '-'
  let digits ← dropZeros (if negative then whole.drop 1 else whole)
  let grouped := dropUnderscores digits
  return if negative then '-' :: grouped else grouped

def looseInteger (text : String) : Except LooseFault Int :=
  match plainForm? text.toList with
  | none => .error .unreadable
  | some cs =>
    match plainInteger? cs with
    | none => .error .unreadable
    | some n => if longestInteger < cs.length then .error .huge else .ok n

end Triage.Text
