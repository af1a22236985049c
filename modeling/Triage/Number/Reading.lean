import Triage.Number.Binary64
import Triage.Text.Blank
import Triage.Text.Digit
import Triage.Text.Find

/-!
# Reading numbers with a fraction

A text denotes a number when it is a decimal with an optional fraction and exponent, or one of the
words for the numbers that have no decimal. White space around it and a sign are allowed, and digits
may be of any script.
-/

namespace Triage.Binary64

def infinityWords : List (List Char) := ["inf".toList, "infinity".toList]

/-- The exponent at the end of a decimal; without one it is zero. -/
def exponentText? : List Char → Option Int
  | [] => some 0
  | e :: cs =>
    if e = 'e' ∨ e = 'E' then
      let negative := cs.head? = some '-'
      let ds := if negative ∨ cs.head? = some '+' then cs.drop 1 else cs
      if ds ≠ [] ∧ ds.all Text.isDigit then
        let n : Int := Text.numeral ds
        some (if negative then -n else n)
      else none
    else none

def decimalText? (negative : Bool) (cs : List Char) : Option Binary64 :=
  let whole := cs.takeWhile Text.isDigit
  let rest := cs.drop whole.length
  let fraction := if rest.head? = some '.' then (rest.drop 1).takeWhile Text.isDigit else []
  let tail := if rest.head? = some '.' then rest.drop (fraction.length + 1) else rest
  if whole = [] ∧ fraction = [] then none
  else
    (exponentText? tail).map fun e =>
      ofDecimal negative (Text.numeral (whole ++ fraction)) (e - fraction.length)

def ofText? (cs : List Char) : Option Binary64 :=
  let trimmed := Text.trimBy Text.isSpace cs
  let (negative, body) :=
    match trimmed with
    | '-' :: rest => (true, rest)
    | '+' :: rest => (false, rest)
    | _ => (false, trimmed)
  let word := body.map Char.toLower
  if word ∈ infinityWords then some (.infinite negative)
  else if word = "nan".toList then some .nan
  else decimalText? negative body

end Triage.Binary64
