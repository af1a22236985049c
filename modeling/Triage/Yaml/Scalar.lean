import Triage.Number.Arithmetic
import Triage.Number.Reading
import Triage.Text.Base64
import Triage.Text.LowerCase
import Triage.Value.Text
import Triage.Yaml.Plain

/-!
# The values of scalars

What a scalar with a tag stands for. A tag may be written before any text, so the text need not have
the form of such a value.
-/

namespace Triage.Yaml

/-- A text that its tag gives no value to. -/
inductive ValueFault where
  /-- What should be an integer in a base. -/
  | integer (base : Nat) (text : CodeText)
  | float (text : CodeText)
  | numeral (fault : NumeralFault)
  /-- A code beyond the last code point. -/
  | code (code : Nat)
  | date (fault : Date.Fault) (year : Nat)
  | hour
  | minute
  | second
  | offset (seconds : Int)
  /-- A number was expected and there is no character. -/
  | noCharacter
  /-- What should be a word for a truth value. -/
  | word (text : CodeText)
  | noTimestamp
  /-- A digit group in base sixty is too far from the last one. -/
  | sixtieths
  deriving DecidableEq, Repr

namespace ValueFault

/-- The greatest code that can be asked for at all. -/
def greatestCode : Nat := 0x7FFFFFFF

/-- The most characters of a text that a message shows. -/
def shownCharacters : Nat := 200

def message : ValueFault → String
  | integer base text =>
    "invalid literal for int() with base " ++ toString base ++ ": " ++
      Text.quotedPrefix shownCharacters text
  | float text => "could not convert string to float: " ++ Text.quoted text
  | numeral fault => fault.message
  | code n =>
    if greatestCode < n then "Python int too large to convert to C int"
    else "chr() arg not in range(0x110000)"
  | date .year year => "year " ++ toString year ++ " is out of range"
  | date .month _ => "month must be in 1..12"
  | date .day _ => "day is out of range for month"
  | hour => "hour must be in 0..23"
  | minute => "minute must be in 0..59"
  | second => "second must be in 0..59"
  | offset seconds =>
    "offset must be a timedelta strictly between -timedelta(hours=24) and timedelta(hours=24), not "
      ++ Value.spanLiteral (seconds * 1000000) ++ "."
  | noCharacter => "string index out of range"
  | word text => Text.quoted text
  | noTimestamp => "'NoneType' object has no attribute 'groupdict'"
  | sixtieths => "int too large to convert to float"

/-- Whether the text was read and only names no value. -/
def isValueFault : ValueFault → Bool
  | code n => n ≤ greatestCode
  | noCharacter | word _ | noTimestamp | sixtieths => false
  | _ => true

end ValueFault

namespace Scalar

def sign (ps : List CodePoint) : Bool × List CodePoint :=
  match ps with
  | .char '-' :: rest => (true, rest)
  | .char '+' :: rest => (false, rest)
  | _ => (false, ps)

def withoutUnderscores (text : CodeText) : List CodePoint :=
  text.points.filter (· ≠ .char '_')

def integerIn (base : Nat) (ps : List CodePoint) : Except ValueFault Int :=
  match (CodeText.string? ⟨ps⟩).map fun s => Text.readInteger .standard base s.toList with
  | some (.ok n) => .ok n
  | some (.error (.numeral fault)) => .error (.numeral fault)
  | _ => .error (.integer base ⟨ps⟩)

def sixtyGroups (groups : List (List CodePoint)) : Except ValueFault Int :=
  (groups.mapM (integerIn 10)).map fun ns => ns.foldl (fun n group => 60 * n + group) 0

/-- The magnitude of an integer: the front of the text decides on its base. -/
def integerMagnitude (ps : List CodePoint) : Except ValueFault Int :=
  match ps with
  | [] => .error .noCharacter
  | .char '0' :: .char 'b' :: ds => integerIn 2 ds
  | .char '0' :: .char 'x' :: ds => integerIn 16 ds
  | .char '0' :: _ => integerIn 8 ps
  | _ => if .char ':' ∈ ps then sixtyGroups (Text.pieces (.char ':') ps) else integerIn 10 ps

def integer (text : CodeText) : Except ValueFault Value :=
  let ps := withoutUnderscores text
  if ps = [] then .error .noCharacter
  else
    let (negative, body) := sign ps
    (integerMagnitude body).map fun n => .int (if negative then -n else n)

def floatOf (ps : List CodePoint) : Except ValueFault Binary64 :=
  match (CodeText.string? ⟨ps⟩).bind fun s => Binary64.ofText? s.toList with
  | some x => .ok x
  | none => .error (.float ⟨ps⟩)

/-- Digit groups in base sixty, from the last one on, are added up with rounding in every step. -/
def addSixtieths (sum : Binary64) (power : Nat) : List Binary64 → Except ValueFault Binary64
  | [] => .ok sum
  | group :: groups =>
    match Binary64.ofInt power with
    | .infinite _ => .error .sixtieths
    | weight => addSixtieths (sum.add (group.mul weight)) (60 * power) groups

def floatMagnitude (ps : List CodePoint) : Except ValueFault Binary64 :=
  if ps = ".inf".toList.map .char then .ok (.infinite false)
  else if ps = ".nan".toList.map .char then .ok .nan
  else if .char ':' ∈ ps then
    ((Text.pieces (.char ':') ps).mapM floatOf).bind fun groups =>
      addSixtieths (.zero false) 1 groups.reverse
  else floatOf ps

def float (text : CodeText) : Except ValueFault Value :=
  let ps := Text.lowerCase (withoutUnderscores text)
  if ps = [] then .error .noCharacter
  else
    let (negative, body) := sign ps
    (floatMagnitude body).map fun x => .float (if negative then x.neg else x)

def boolWords : List (CodeText × Bool) :=
  [("yes", true), ("no", false), ("true", true), ("false", false), ("on", true), ("off", false)]

def bool (text : CodeText) : Except ValueFault Value :=
  let word : CodeText := ⟨Text.lowerCase text.points⟩
  match boolWords.lookup word with
  | some b => .ok (.bool b)
  | none => .error (.word word)

def ofTimestamp (t : Plain.Timestamp) : Except ValueFault Value :=
  match t.clock with
  | none =>
    match t.date.fault? with
    | some f => .error (.date f t.date.year)
    | none => .ok (.date t.date)
  | some (hour, minute, second, micro, offset) =>
    if 86400 ≤ (offset.getD 0).natAbs then .error (.offset (offset.getD 0))
    else
      match t.date.fault? with
      | some f => .error (.date f t.date.year)
      | none =>
        if 23 < hour then .error .hour
        else if 59 < minute then .error .minute
        else if 59 < second then .error .second
        else
          match Moment.ofParts? t.date hour minute second micro (offset.map (· * 1000000)) with
          | some m => .ok (.moment m)
          | none => .error .second

def timestamp (text : CodeText) : Except ValueFault Value :=
  match text.string?.bind fun s => Plain.timestamp? (Plain.withoutFinalBreak s.toList) with
  | some t => ofTimestamp t
  | none => .error .noTimestamp

/-- The bytes of a text, which must be ASCII. -/
def bytes? (text : CodeText) : Option (List Nat) :=
  text.string?.bind fun s => if s.toList.all (·.toNat < 128) then Text.base64? s.toList else none

/-- The value of a scalar. The tags of collections and of special keys give none. -/
def value? (tag : Tag) (text : CodeText) : Option (Except ValueFault Value) :=
  match tag with
  | .null => some (.ok .null)
  | .bool => some (bool text)
  | .int => some (integer text)
  | .float => some (float text)
  | .timestamp => some (timestamp text)
  | .str => some (.ok (.str text))
  | .binary => (bytes? text).map fun bs => .ok (.bytes bs)
  | _ => none

end Scalar

end Triage.Yaml
