/-!
# Double precision numbers

A number of the 64-bit binary format is kept as its exact value, so that reading, comparing,
truncating and printing are integer arithmetic. `Binary64.ofDecimal` rounds a decimal to the nearest
such number, ties to the even mantissa.
-/

namespace Triage

/-- A finite number is `mantissa * 2 ^ exponent` with its sign; a mantissa below `2 ^ 52` occurs
with the least exponent only, and zero has the exponent zero. -/
inductive Binary64 where
  | nan
  | infinite (negative : Bool)
  | finite (negative : Bool) (mantissa : Nat) (exponent : Int)
  deriving DecidableEq, Repr

namespace Binary64

def minExponent : Int := -1074
def maxExponent : Int := 971

/-- The quotient rounded to the nearest natural number, ties to even. -/
def roundDiv (num den : Nat) : Nat :=
  let q := num / den
  let r := num % den
  if 2 * r < den then q else if den < 2 * r then q + 1 else q + q % 2

/-- The powers of two and of ten; with a negative exponent they are 1. -/
def twoTo (e : Int) : Nat := Nat.pow 2 e.toNat
def tenTo (e : Int) : Nat := Nat.pow 10 e.toNat

/-- The least mantissa of numbers above the least exponent. -/
def leastMantissa : Nat := 0x10000000000000

/-- `num / den` in units of `2 ^ e`, as a fraction. -/
def inUnits (num den : Nat) (e : Int) : Nat × Nat :=
  if 0 ≤ e then (num, den * twoTo e) else (num * twoTo (-e), den)

def zero (negative : Bool) : Binary64 := .finite negative 0 0

/-- The number nearest to `num / den`. -/
def ofRatio (negative : Bool) (num den : Nat) : Binary64 :=
  if num = 0 ∨ den = 0 then zero negative
  else
    let guess : Int := (Nat.log2 num : Int) - (Nat.log2 den : Int) - 52
    let scaled := inUnits num den guess
    let e := max (if scaled.1 < leastMantissa * scaled.2 then guess - 1 else guess) minExponent
    let units := inUnits num den e
    let m := roundDiv units.1 units.2
    if m = 0 then zero negative
    else
      let carried := m = 2 * leastMantissa
      let m' := if carried then leastMantissa else m
      let e' := if carried then e + 1 else e
      if maxExponent < e' then .infinite negative else .finite negative m' e'

/-- The number nearest to `digits * 10 ^ exponent`. Exponents far outside the range are settled by
the count of digits alone. -/
def ofDecimal (negative : Bool) (digits : Nat) (exponent : Int) : Binary64 :=
  let size : Int := (Nat.toDigits 10 digits).length + exponent
  if digits = 0 ∨ size < -330 then zero negative
  else if 310 < size then .infinite negative
  else if 0 ≤ exponent then ofRatio negative (digits * tenTo exponent) 1
  else ofRatio negative digits (tenTo (-exponent))

def neg : Binary64 → Binary64
  | .nan => .nan
  | .infinite s => .infinite !s
  | .finite s m e => .finite (!s) m e

/-- The integer part, cut toward zero; absent for infinities and for what is not a number. -/
def truncate? : Binary64 → Option Int
  | .finite s m e =>
    let n : Nat := if 0 ≤ e then m * twoTo e else m / twoTo (-e)
    some (if s then -(n : Int) else n)
  | _ => none

def isFinite : Binary64 → Bool
  | .finite .. => true
  | _ => false

/-- The integer that the number equals, if it is one. -/
def toInt? : Binary64 → Option Int
  | .finite s m e =>
    if 0 ≤ e ∨ m % twoTo (-e) = 0 then (Binary64.finite s m e).truncate? else none
  | _ => none

end Binary64

end Triage
