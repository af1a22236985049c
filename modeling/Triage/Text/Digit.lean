/-!
# Decimal digits

Every script's decimal digits stand in ten consecutive code points, from zero to nine. Digits of
different scripts may be mixed in one numeral.
-/

namespace Triage.Text

/-- The zeros of the scripts (Unicode 14). -/
def digitZeros : List Nat := [
  0x30, 0x660, 0x6F0, 0x7C0, 0x966, 0x9E6, 0xA66, 0xAE6, 0xB66, 0xBE6, 0xC66, 0xCE6, 0xD66,
  0xDE6, 0xE50, 0xED0, 0xF20, 0x1040, 0x1090, 0x17E0, 0x1810, 0x1946, 0x19D0, 0x1A80, 0x1A90,
  0x1B50, 0x1BB0, 0x1C40, 0x1C50, 0xA620, 0xA8D0, 0xA900, 0xA9D0, 0xA9F0, 0xAA50, 0xABF0,
  0xFF10, 0x104A0, 0x10D30, 0x11066, 0x110F0, 0x11136, 0x111D0, 0x112F0, 0x11450, 0x114D0,
  0x11650, 0x116C0, 0x11730, 0x118E0, 0x11950, 0x11C50, 0x11D50, 0x11DA0, 0x16A60, 0x16AC0,
  0x16B50, 0x1D7CE, 0x1D7D8, 0x1D7E2, 0x1D7EC, 0x1D7F6, 0x1E140, 0x1E2F0, 0x1E950, 0x1FBF0]

def digit? (c : Char) : Option Nat :=
  (digitZeros.find? fun z => z ≤ c.toNat && c.toNat < z + 10).map (c.toNat - ·)

def isDigit (c : Char) : Bool := (digit? c).isSome

/-- The number that the digits of a numeral denote; other characters count as zero. -/
def numeral (cs : List Char) : Nat :=
  cs.foldl (fun n c => 10 * n + (digit? c).getD 0) 0

/-- The value of an ASCII digit in bases up to sixteen. -/
def asciiDigit? (c : Char) : Option Nat :=
  let n := c.toNat
  if 48 ≤ n && n ≤ 57 then some (n - 48)
  else if 65 ≤ n && n ≤ 70 then some (n - 55)
  else if 97 ≤ n && n ≤ 102 then some (n - 87)
  else none

/-- The number an ASCII numeral denotes in the given base; other characters count as zero. -/
def numeralIn (base : Nat) (cs : List Char) : Nat :=
  cs.foldl (fun n c => base * n + (asciiDigit? c).getD 0) 0

def ofNat (n : Nat) : List Char := Nat.toDigits 10 n

theorem isDigit_of_mem_ofNat {n : Nat} {c : Char} (h : c ∈ ofNat n) : c.isDigit = true :=
  Nat.isDigit_of_mem_toDigits (by decide) (by decide) h

def ofInt : Int → List Char
  | .ofNat n => ofNat n
  | .negSucc n => '-' :: ofNat (n + 1)

theorem toList_toString (n : Int) : (toString n).toList = ofInt n := by
  cases n with
  | ofNat n =>
    have htext : toString (Int.ofNat n) = String.ofList (ofNat n) := Nat.repr_eq_ofList_toDigits
    rw [htext, String.toList_ofList]
    rfl
  | negSucc n =>
    have htext : toString (Int.negSucc n) = "-" ++ String.ofList (ofNat (n + 1)) :=
      congrArg ("-" ++ ·) Nat.repr_eq_ofList_toDigits
    rw [htext, String.toList_append]
    exact congrArg ('-' :: ·) String.toList_ofList

/-- The decimal text of `n`, filled with zeros on the left up to the given width. -/
def padded (width n : Nat) : List Char :=
  let ds := ofNat n
  List.replicate (width - ds.length) '0' ++ ds

end Triage.Text
