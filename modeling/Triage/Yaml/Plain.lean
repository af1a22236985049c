import Triage.Text.CodePoint
import Triage.Text.Digit
import Triage.Text.Find
import Triage.Time.Moment
import Triage.Yaml.Tag

/-!
# Plain scalars

The tag that a scalar without quotes or tag has by its text. The words and number forms are those of
YAML 1.1: `yes` and `no` are truth values, a leading zero means octal, and numbers between colons are
in base sixty.
-/

namespace Triage.Yaml

namespace Plain

def nullWords : List String := ["~", "null", "Null", "NULL", ""]
def trueWords : List String := ["yes", "Yes", "YES", "true", "True", "TRUE", "on", "On", "ON"]
def falseWords : List String := ["no", "No", "NO", "false", "False", "FALSE", "off", "Off", "OFF"]

def sign : List Char → Bool × List Char
  | '-' :: cs => (true, cs)
  | '+' :: cs => (false, cs)
  | cs => (false, cs)

def isOf (chars : String) (cs : List Char) : Bool := cs.all (· ∈ chars.toList)

def decimalChars : String := "0123456789_"

/-- A digit group in base sixty after the first one. -/
def isSixtieth : List Char → Bool
  | [a] => a.isDigit
  | [a, b] => a.isDigit && a.toNat < 54 && b.isDigit
  | _ => false

def startsWithDigit (cs : List Char) : Bool := cs.head?.any Char.isDigit

def startsNonzero (cs : List Char) : Bool := startsWithDigit cs && cs.head? != some '0'

def isInt (cs : List Char) : Bool :=
  match (sign cs).2 with
  | '0' :: 'b' :: ds => ds ≠ [] && isOf "01_" ds
  | '0' :: 'x' :: ds => ds ≠ [] && isOf "0123456789abcdefABCDEF_" ds
  | '0' :: ds => isOf "01234567_" ds
  | body =>
    match Text.pieces ':' body with
    | [] => false
    | first :: rest => startsNonzero first && isOf decimalChars first && rest.all isSixtieth

/-- An exponent with its sign, or nothing. -/
def isExponent : List Char → Bool
  | [] => true
  | e :: s :: ds => (e = 'e' || e = 'E') && (s = '+' || s = '-') && ds ≠ [] && ds.all Char.isDigit
  | _ => false

def isFloat (cs : List Char) : Bool :=
  let body := (sign cs).2
  let digits := body.takeWhile (· ∈ decimalChars.toList)
  match body with
  | '.' :: rest =>
    String.ofList rest ∈ ["inf", "Inf", "INF"] ||
      (cs = body && (String.ofList rest ∈ ["nan", "NaN", "NAN"] ||
        (startsWithDigit rest && isExponent (rest.dropWhile (· ∈ decimalChars.toList)))))
  | _ =>
    startsWithDigit body &&
      match body.drop digits.length with
      | '.' :: rest => isExponent (rest.dropWhile (· ∈ decimalChars.toList))
      | ':' :: rest =>
        match Text.cut? ['.'] rest with
        | some (groups, fraction) =>
          (Text.pieces ':' groups).all isSixtieth && isOf decimalChars fraction
        | none => false
      | _ => false

def oneOrTwo? (cs : List Char) : Option (Nat × List Char) :=
  let ds := (cs.take 2).takeWhile Char.isDigit
  if ds = [] then none else some (Text.numeralIn 10 ds, cs.drop ds.length)

def literal? (c : Char) (cs : List Char) : Option (List Char) :=
  match cs with
  | d :: rest => if c = d then some rest else none
  | [] => none

/-- The parts of a timestamp. The offset is in seconds; a date alone has no clock. -/
structure Timestamp where
  date : Date
  clock : Option (Nat × Nat × Nat × Nat × Option Int)

/-- The offset at the end of a timestamp, which must be all that is left. -/
def timestampOffset? (cs : List Char) : Option (Option Int) :=
  match cs.dropWhile fun c => c = ' ' || c = '\t' with
  | [] => if cs = [] then some none else none
  | ['Z'] => some (some 0)
  | s :: rest =>
    if s = '+' || s = '-' then do
      let (hours, rest) ← oneOrTwo? rest
      let minutes ←
        match rest with
        | [] => some 0
        | ':' :: ds => (Moment.digitsAt? 2 ds).bind fun r => if r.2 = [] then some r.1 else none
        | _ => none
      let seconds : Int := hours * 3600 + minutes * 60
      some (some (if s = '-' then -seconds else seconds))
    else none

def timestampClock? (cs : List Char) : Option (Nat × Nat × Nat × Nat × Option Int) := do
  let (hour, rest) ← oneOrTwo? cs
  let (minute, rest) ← Moment.digitsAt? 2 (← literal? ':' rest)
  let (second, rest) ← Moment.digitsAt? 2 (← literal? ':' rest)
  let (micro, rest) :=
    match rest with
    | '.' :: more =>
      (Moment.fractionOf (more.takeWhile Char.isDigit), more.dropWhile Char.isDigit)
    | _ => (0, rest)
  let offset ← timestampOffset? rest
  return (hour, minute, second, micro, offset)

/-- Date and time of day of a timestamp; month and day may have one digit. -/
def timestamp? (cs : List Char) : Option Timestamp := do
  let (year, rest) ← Moment.digitsAt? 4 cs
  let afterYear ← literal? '-' rest
  let (month, rest) ← oneOrTwo? afterYear
  let afterMonth ← literal? '-' rest
  let (day, rest) ← oneOrTwo? afterMonth
  match rest with
  | [] => some ⟨⟨year, month, day⟩, none⟩
  | c :: more =>
    let clockText ←
      if c = 'T' || c = 't' then some more
      else if c = ' ' || c = '\t' then some (more.dropWhile fun x => x = ' ' || x = '\t')
      else none
    let clock ← timestampClock? clockText
    some ⟨⟨year, month, day⟩, some clock⟩

/-- A date alone is a timestamp without a tag only when all its digits are written. -/
def isTimestamp (cs : List Char) : Bool :=
  (timestamp? cs).any fun t => t.clock.isSome || cs.length = 10

def withoutFinalBreak (cs : List Char) : List Char :=
  if cs.getLast? = some '\n' then cs.dropLast else cs

/-- The marks of tags, anchors and aliases; what is only one of them stands for no value. -/
def indicatorWords : List String := ["!", "&", "*"]

def tagOfWord (cs : List Char) : Tag :=
  let word := String.ofList cs
  if word ∈ trueWords || word ∈ falseWords then .bool
  else if isFloat cs then .float
  else if isInt cs then .int
  else if word = "<<" then .merge
  else if word ∈ nullWords then .null
  else if isTimestamp cs then .timestamp
  else if word = "=" then .value
  else if word ∈ indicatorWords then .unknown
  else .str

/-- The tag of a plain scalar. A line feed at the end is passed over, unless it is all there is. -/
def tagOf (text : CodeText) : Tag :=
  match text.string? with
  | none => .str
  | some s =>
    let cs := s.toList
    if cs = ['\n'] then .str else tagOfWord (withoutFinalBreak cs)

end Plain

end Triage.Yaml
