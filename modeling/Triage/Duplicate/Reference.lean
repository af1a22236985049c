import Triage.Text.Find
import Triage.Text.Numeral

/-!
# References to duplicates

A comment that begins with `Duplicate of #N` declares its issue a duplicate of issue `N`.
-/

namespace Triage.Duplicate

def referenceLead : List Char := "Duplicate of #".toList

/-- The number a text refers to; its digits may be of any script, and their count is limited. -/
def referenceIn (limit : DigitLimit) (text : List Char) : Except NumeralFault (Option Nat) :=
  match Text.dropLiteral? referenceLead text with
  | none => .ok none
  | some rest =>
    let ds := rest.takeWhile Text.isDigit
    if ds = [] then .ok none else (Text.readNumeral limit ds).map some

def reference (limit : DigitLimit) (body : Option String) : Except NumeralFault (Option Nat) :=
  match body with
  | none => .ok none
  | some b => referenceIn limit b.toList

end Triage.Duplicate
