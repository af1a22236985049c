import Triage.Number.Binary64
import Triage.Text.Digit

/-!
# Shortest decimal text of a double precision number

`Binary64.shortest` finds the decimal with the fewest digits that reads back as the number, and of
those the nearest. `FloatText` holds the decisions of a written form: where positional notation
ends, and the spelling of the exceptional values.
-/

namespace Triage

namespace Binary64

/-- The open or closed interval of reals that round to `m * 2 ^ e`, in quarters of the last place:
the lower end, the number itself and the upper end. -/
def rounding (m : Nat) (e : Int) : Nat × Nat × Nat :=
  let below := if m = leastMantissa ∧ minExponent < e then 4 * m - 1 else 4 * m - 2
  (below, 4 * m, 4 * m + 2)

/-- `n` quarters of `2 ^ e`, compared with multiples of `10 ^ p`: the two sides of the fraction. -/
def quartersOver (n : Nat) (e p : Int) : Nat × Nat :=
  (n * twoTo (e - 2) * tenTo (-p), twoTo (2 - e) * tenTo p)

/-- Whether `a * 10 ^ p` rounds to `m * 2 ^ e`; the ends belong to it for an even mantissa. -/
def reads (m : Nat) (e : Int) (a : Nat) (p : Int) : Bool :=
  let r := rounding m e
  let lo := quartersOver r.1 e p
  let hi := quartersOver r.2.2 e p
  if m % 2 = 0 then lo.1 ≤ a * lo.2 && a * hi.2 ≤ hi.1
  else lo.1 < a * lo.2 && a * hi.2 < hi.1

/-- The neighbours of the number on the grid `10 ^ p` that read back; of two the nearer, and the
even one at equal distance. -/
def onGrid? (m : Nat) (e p : Int) : Option Nat :=
  let v := quartersOver (4 * m) e p
  let a := v.1 / v.2
  let rest := v.1 % v.2
  match reads m e a p, reads m e (a + 1) p with
  | false, false => none
  | true, false => some a
  | false, true => some (a + 1)
  | true, true =>
    if 2 * rest < v.2 then some a
    else if v.2 < 2 * rest then some (a + 1)
    else some (a + a % 2)

/-- Searches ever finer grids, from `10 ^ p` down. -/
def shortestFrom (m : Nat) (e : Int) : Nat → Int → Nat × Int
  | 0, p => ((onGrid? m e p).getD 0, p)
  | fuel + 1, p =>
    match onGrid? m e p with
    | some a => if a = 0 then shortestFrom m e fuel (p - 1) else (a, p)
    | none => shortestFrom m e fuel (p - 1)

/-- Digits and decimal exponent of the shortest decimal that reads back as `m * 2 ^ e`. Twenty
grids below the number's own size always hold one. -/
def shortest (m : Nat) (e : Int) : Nat × Int :=
  shortestFrom m e 22 (((Nat.log2 m : Int) + e + 1) * 30103 / 100000 + 1)

end Binary64

/-- The decisions of a written form of double precision numbers. -/
structure FloatText where
  nan : String
  infinity : String
  /-- The decimal exponents that are written positionally run from `least` up to `limit`. -/
  least : Int
  limit : Int
  exponentDigits : Nat

/-- The digits of `a * 10 ^ p`, positional or with an exponent; there is always a digit on both
sides of a positional point. -/
def FloatText.decimal (style : FloatText) (a : Nat) (p : Int) : List Char :=
  let ds := Text.ofNat a
  let point : Int := ds.length + p
  let exponent := point - 1
  if style.least ≤ exponent ∧ exponent < style.limit then
    if point ≤ 0 then '0' :: '.' :: (List.replicate (-point).toNat '0' ++ ds)
    else if (ds.length : Int) ≤ point then
      ds ++ List.replicate (point.toNat - ds.length) '0' ++ ['.', '0']
    else ds.take point.toNat ++ '.' :: ds.drop point.toNat
  else
    let fraction := if ds.length ≤ 1 then [] else '.' :: ds.drop 1
    let sign := if exponent < 0 then '-' else '+'
    ds.take 1 ++ fraction ++ 'e' :: sign :: Text.padded style.exponentDigits exponent.natAbs

def FloatText.write (style : FloatText) : Binary64 → List Char
  | .nan => style.nan.toList
  | .infinite s => (if s then ['-'] else []) ++ style.infinity.toList
  | .finite s m e =>
    let body :=
      if m = 0 then ['0', '.', '0']
      else
        let d := Binary64.shortest m e
        style.decimal d.1 d.2
    if s then '-' :: body else body

end Triage
