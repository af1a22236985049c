import Triage.Json.Basic
import Triage.Number.Shortest
import Triage.Text.Numeral

/-!
# Writing JSON

One line, a blank after each comma and colon, and nothing but ASCII: characters outside the
printable range are written as UTF-16 escapes.
-/

namespace Triage.Json

/-- JSON writes numbers with a fraction in their shortest form; the values JSON has no notation for
are spelled out. -/
def floatText : FloatText := ⟨"NaN", "Infinity", -4, 16, 2⟩

def hexDigit (n : Nat) : Char := if n < 10 then Char.ofNat (48 + n) else Char.ofNat (87 + n)

/-- One UTF-16 unit as an escape of four hexadecimal digits. -/
def escapeUnit (n : Nat) : List Char :=
  ['\\', 'u', hexDigit (n / 4096 % 16), hexDigit (n / 256 % 16), hexDigit (n / 16 % 16),
    hexDigit (n % 16)]

def escapeChar (c : Char) : List Char :=
  if c = '"' then ['\\', '"']
  else if c = '\\' then ['\\', '\\']
  else if c = '\n' then ['\\', 'n']
  else if c = '\r' then ['\\', 'r']
  else if c = '\t' then ['\\', 't']
  else if c = '\x08' then ['\\', 'b']
  else if c = '\x0c' then ['\\', 'f']
  else if 32 ≤ c.toNat ∧ c.toNat ≤ 126 then [c]
  else if c.toNat < 0x10000 then escapeUnit c.toNat
  else
    escapeUnit (0xD800 + (c.toNat - 0x10000) / 0x400) ++
      escapeUnit (0xDC00 + (c.toNat - 0x10000) % 0x400)

def escapePoint : CodePoint → List Char
  | .char c => escapeChar c
  | .half n => escapeUnit (0xD800 + n.val)

def writeString (s : CodeText) : List Char := '"' :: (s.points.flatMap escapePoint ++ ['"'])

mutual

def write : Json → List Char
  | .null => ['n', 'u', 'l', 'l']
  | .bool true => ['t', 'r', 'u', 'e']
  | .bool false => ['f', 'a', 'l', 's', 'e']
  | .int n => Text.ofInt n
  | .float x => floatText.write x
  | .str s => writeString s
  | .arr [] => ['[', ']']
  | .arr (j :: js) => '[' :: (write j ++ writeItems js)
  | .obj [] => ['{', '}']
  | .obj ((k, j) :: fs) => '{' :: (writeString k ++ ':' :: ' ' :: (write j ++ writeFields fs))

/-- The items after the first, and the bracket that closes them. -/
def writeItems : List Json → List Char
  | [] => [']']
  | j :: js => ',' :: ' ' :: (write j ++ writeItems js)

/-- The fields after the first, and the brace that closes them. -/
def writeFields : List (CodeText × Json) → List Char
  | [] => ['}']
  | (k, j) :: fs => ',' :: ' ' :: (writeString k ++ ':' :: ' ' :: (write j ++ writeFields fs))

end

def render (j : Json) : String := String.ofList (write j)

mutual

/-- The fault of writing a value under a limit: that of the first integer with too many digits. -/
def numberFault? (limit : DigitLimit) : Json → Option NumeralFault
  | .int n => limit.numberFault? n
  | .arr items => itemFault? limit items
  | .obj fields => fieldFault? limit fields
  | _ => none

def itemFault? (limit : DigitLimit) : List Json → Option NumeralFault
  | [] => none
  | j :: js => (numberFault? limit j).or (itemFault? limit js)

def fieldFault? (limit : DigitLimit) : List (CodeText × Json) → Option NumeralFault
  | [] => none
  | (_, j) :: fs => (numberFault? limit j).or (fieldFault? limit fs)

end

end Triage.Json
