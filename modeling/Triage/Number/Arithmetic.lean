import Triage.Number.Binary64

/-!
# Arithmetic on double precision numbers

Sums, products and quotients are the exact result rounded once. Rounding to whole numbers is exact.
-/

namespace Triage.Binary64

/-- The number nearest to an integer; infinite when the integer is beyond the greatest number. -/
def ofInt (n : Int) : Binary64 := ofRatio (n < 0) n.natAbs 1

def ofScaled (n e : Int) : Binary64 :=
  ofRatio (n < 0) (n.natAbs * twoTo e) (twoTo (-e))

def signed (negative : Bool) (mantissa : Nat) : Int :=
  if negative then -(mantissa : Int) else mantissa

/-- The sum; one that is exactly zero is negative only for two negative zeros. -/
def add : Binary64 → Binary64 → Binary64
  | .finite s m e, .finite t n f =>
    let least := min e f
    let sum := signed s m * twoTo (e - least) + signed t n * twoTo (f - least)
    if sum = 0 then zero (s && t) else ofScaled sum least
  | .nan, _ => .nan
  | _, .nan => .nan
  | .infinite s, .infinite t => if s = t then .infinite s else .nan
  | .infinite s, _ => .infinite s
  | _, .infinite t => .infinite t

def sub (x y : Binary64) : Binary64 := add x y.neg

def mul : Binary64 → Binary64 → Binary64
  | .finite s m e, .finite t n f =>
    if m * n = 0 then zero (s != t) else ofScaled (signed (s != t) (m * n)) (e + f)
  | .nan, _ => .nan
  | _, .nan => .nan
  | .infinite s, .infinite t => .infinite (s != t)
  | .infinite s, .finite t n _ => if n = 0 then .nan else .infinite (s != t)
  | .finite s m _, .infinite t => if m = 0 then .nan else .infinite (s != t)

def div : Binary64 → Binary64 → Binary64
  | .finite s m e, .finite t n f =>
    if n = 0 then (if m = 0 then .nan else .infinite (s != t))
    else ofRatio (s != t) (m * twoTo (e - f)) (n * twoTo (f - e))
  | .nan, _ => .nan
  | _, .nan => .nan
  | .infinite _, .infinite _ => .nan
  | .infinite s, .finite t _ _ => .infinite (s != t)
  | .finite s _ _, .infinite t => zero (s != t)

def exceeds (x : Binary64) (n : Nat) : Bool :=
  match x with
  | .finite _ m e => n * twoTo (-e) < m * twoTo e
  | .infinite _ => true
  | .nan => false

/-- The greatest integer that is not above the number. -/
def floor? : Binary64 → Option Int
  | .finite s m e => some (Int.fdiv (signed s m * twoTo e) (twoTo (-e)))
  | _ => none

/-- The natural number nearest to a magnitude; halves go up. -/
def roundMagnitude : Binary64 → Nat
  | .finite _ m e => (2 * (m * twoTo e) + twoTo (-e)) / (2 * twoTo (-e))
  | _ => 0

end Triage.Binary64
