import Triage.Text.CodePoint
import Triage.Text.Digit
import Triage.Text.Printable

/-!
# Quoted text in messages

A name in a message stands in single quotes, or in double quotes when it holds a single quote and
no double one. Characters that do not print are escaped by their code point.
-/

namespace Triage.Text

def hexDigits (width n : Nat) : List Char :=
  let ds := Nat.toDigits 16 n
  List.replicate (width - ds.length) '0' ++ ds

def quotedChar (quote c : Char) : List Char :=
  if c = '\\' || c = quote then ['\\', c]
  else if c = '\n' then ['\\', 'n']
  else if c = '\r' then ['\\', 'r']
  else if c = '\t' then ['\\', 't']
  else if isPrintable c then [c]
  else if c.toNat < 0x100 then '\\' :: 'x' :: hexDigits 2 c.toNat
  else if c.toNat < 0x10000 then '\\' :: 'u' :: hexDigits 4 c.toNat
  else '\\' :: 'U' :: hexDigits 8 c.toNat

def quotedPoint (quote : Char) : CodePoint → List Char
  | .char c => quotedChar quote c
  | .half n => '\\' :: 'u' :: hexDigits 4 (0xD800 + n.val)

def quoteFor (ps : List CodePoint) : Char :=
  if .char '\'' ∈ ps ∧ .char '"' ∉ ps then '"' else '\''

def quoted (s : CodeText) : String :=
  let quote := quoteFor s.points
  String.ofList (quote :: s.points.flatMap (quotedPoint quote) ++ [quote])

def quotedPrefix (length : Nat) (s : CodeText) : String :=
  String.ofList ((quoted s).toList.take length)

/-- One byte inside the given quotes: only printable ASCII is shown. -/
def quotedByte (quote : Char) (b : Nat) : List Char :=
  if 0x7F ≤ b then '\\' :: 'x' :: hexDigits 2 b else quotedChar quote (Char.ofNat b)

/-- Bytes in quotes, with a letter in front that tells them from text. -/
def quotedBytes (bytes : List Nat) : String :=
  let quote := quoteFor (bytes.map fun b => .char (Char.ofNat b))
  String.ofList ('b' :: quote :: bytes.flatMap (quotedByte quote) ++ [quote])

end Triage.Text
