import Triage.Json.Basic
import Triage.Text.Numeral

/-!
# Reading JSON

The strict grammar, with `NaN`, `Infinity` and `-Infinity` admitted as numbers. A repeated key keeps
its first place and its last value. `Json.read` refuses whatever is left over after the value. Of
two faults the one that comes first in the text counts.
-/

namespace Triage.Json

/-- Why a text gives no value: it is no JSON, or an integer in it has too many digits. -/
inductive ReadFault where
  | malformed
  | numeral (fault : NumeralFault)
  deriving DecidableEq, Repr

def isSpace (c : Char) : Bool := c = ' ' || c = '\t' || c = '\n' || c = '\r'

def skipSpace (cs : List Char) : List Char := cs.dropWhile isSpace

def hex4? (a b c d : Char) : Option Nat := do
  let a ← Text.asciiDigit? a
  let b ← Text.asciiDigit? b
  let c ← Text.asciiDigit? c
  let d ← Text.asciiDigit? d
  return ((a * 16 + b) * 16 + c) * 16 + d

def simpleEscape? : Char → Option Char
  | '"' => some '"'
  | '\\' => some '\\'
  | '/' => some '/'
  | 'b' => some '\x08'
  | 'f' => some '\x0c'
  | 'n' => some '\n'
  | 'r' => some '\r'
  | 't' => some '\t'
  | _ => none

/-- The code points of a string up to its closing quote, and what follows the quote. Escapes may
name halves of surrogate pairs. -/
def points : List Char → Option (List CodePoint × List Char)
  | [] => none
  | c :: cs =>
    if c = '"' then some ([], cs)
    else if c = '\\' then
      match cs with
      | [] => none
      | e :: rest =>
        if e = 'u' then
          match rest with
          | a :: b :: x :: d :: more =>
            match (hex4? a b x d).bind CodePoint.ofCode?, points more with
            | some p, some (ps, left) => some (p :: ps, left)
            | _, _ => none
          | _ => none
        else
          match simpleEscape? e, points rest with
          | some s, some (ps, left) => some (.char s :: ps, left)
          | _, _ => none
    else if c.toNat < 32 then none
    else (points cs).map fun r => (.char c :: r.1, r.2)

/-- A string after its opening quote. The halves of a pair make one character. -/
def readString (cs : List Char) : Except ReadFault (CodeText × List Char) :=
  match points cs with
  | some (ps, left) => .ok (⟨CodePoint.joinPairs ps⟩, left)
  | none => .error .malformed

def isAsciiDigit (c : Char) : Bool := 48 ≤ c.toNat && c.toNat ≤ 57

/-- The integer part of a number: a zero alone, or digits that do not begin with one. -/
def integerPart? (cs : List Char) : Option (List Char × List Char) :=
  match cs with
  | [] => none
  | c :: rest =>
    if c = '0' then some (['0'], rest)
    else if isAsciiDigit c then some (cs.takeWhile isAsciiDigit, cs.dropWhile isAsciiDigit)
    else none

/-- The digits of a fraction, when a point with a digit after it is next. -/
def fractionPart? (cs : List Char) : Option (List Char × List Char) :=
  match cs with
  | p :: d :: rest =>
    if p = '.' ∧ isAsciiDigit d = true then
      some ((d :: rest).takeWhile isAsciiDigit, (d :: rest).dropWhile isAsciiDigit)
    else none
  | _ => none

/-- An exponent, when a complete one is next. -/
def exponentPart? (cs : List Char) : Option (Int × List Char) :=
  match cs with
  | e :: rest =>
    if e = 'e' ∨ e = 'E' then
      let negative := rest.head? = some '-'
      let digits := if negative ∨ rest.head? = some '+' then rest.drop 1 else rest
      let ds := digits.takeWhile isAsciiDigit
      if ds = [] then none
      else
        let n : Int := Text.numeralIn 10 ds
        some (if negative then -n else n, digits.dropWhile isAsciiDigit)
    else none
  | [] => none

def readMagnitude (limit : DigitLimit) (negative : Bool) (cs : List Char) :
    Except ReadFault (Json × List Char) :=
  match integerPart? cs with
  | none => .error .malformed
  | some (whole, rest) =>
    let (fraction, afterFraction) := (fractionPart? rest).getD ([], rest)
    let (exponent, afterExponent) :=
      match exponentPart? afterFraction with
      | some (e, left) => (some e, left)
      | none => (none, afterFraction)
    if fraction = [] ∧ exponent = none then
      match limit.textFault? whole.length with
      | some fault => .error (.numeral fault)
      | none =>
        let n : Int := Text.numeralIn 10 whole
        .ok (.int (if negative then -n else n), rest)
    else
      let scale : Int := exponent.getD 0 - fraction.length
      .ok (.float (.ofDecimal negative (Text.numeralIn 10 (whole ++ fraction)) scale), afterExponent)

def constants : List (List Char × Json) :=
  [("null".toList, .null), ("true".toList, .bool true), ("false".toList, .bool false),
    ("NaN".toList, .float .nan), ("Infinity".toList, .float (.infinite false)),
    ("-Infinity".toList, .float (.infinite true))]

def readConstant? (cs : List Char) : Option (Json × List Char) :=
  constants.findSome? fun w => if w.1.isPrefixOf cs then some (w.2, cs.drop w.1.length) else none

mutual

/-- A value at the front of the text. The fuel bounds the number of values read. -/
def value (limit : DigitLimit) : Nat → List Char → Except ReadFault (Json × List Char)
  | 0, _ => .error .malformed
  | fuel + 1, cs =>
    match cs with
    | [] => .error .malformed
    | c :: rest =>
      if c = '"' then (readString rest).map fun r => (.str r.1, r.2)
      else if c = '[' then
        match skipSpace rest with
        | ']' :: left => .ok (.arr [], left)
        | more => (items limit fuel more).map fun r => (.arr r.1, r.2)
      else if c = '{' then
        match skipSpace rest with
        | '}' :: left => .ok (.obj [], left)
        | more => (fields limit fuel more).map fun r => (.obj (Entries.ofPairs r.1), r.2)
      else
        match readConstant? cs with
        | some r => .ok r
        | none =>
          if c = '-' then readMagnitude limit true rest else readMagnitude limit false cs

/-- One item or more, up to the closing bracket. -/
def items (limit : DigitLimit) : Nat → List Char → Except ReadFault (List Json × List Char)
  | 0, _ => .error .malformed
  | fuel + 1, cs =>
    match value limit fuel cs with
    | .error fault => .error fault
    | .ok (j, rest) =>
      match skipSpace rest with
      | ']' :: left => .ok ([j], left)
      | ',' :: more => (items limit fuel (skipSpace more)).map fun r => (j :: r.1, r.2)
      | _ => .error .malformed

/-- One field or more, up to the closing brace. -/
def fields (limit : DigitLimit) :
    Nat → List Char → Except ReadFault (List (CodeText × Json) × List Char)
  | 0, _ => .error .malformed
  | fuel + 1, cs =>
    match cs with
    | '"' :: keyText =>
      match readString keyText with
      | .error fault => .error fault
      | .ok (k, afterKey) =>
        match skipSpace afterKey with
        | ':' :: valueText =>
          match value limit fuel (skipSpace valueText) with
          | .error fault => .error fault
          | .ok (j, rest) =>
            match skipSpace rest with
            | '}' :: left => .ok ([(k, j)], left)
            | ',' :: more =>
              (fields limit fuel (skipSpace more)).map fun r => ((k, j) :: r.1, r.2)
            | _ => .error .malformed
        | _ => .error .malformed
    | _ => .error .malformed

end

/-- The value that the whole text holds. Two steps of fuel a character are enough for any text. -/
def readChars (limit : DigitLimit) (cs : List Char) : Except ReadFault Json :=
  match value limit (2 * cs.length + 2) (skipSpace cs) with
  | .error fault => .error fault
  | .ok (j, rest) => if skipSpace rest = [] then .ok j else .error .malformed

def read (limit : DigitLimit) (text : String) : Except ReadFault Json := readChars limit text.toList

end Triage.Json
