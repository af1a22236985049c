import Triage.Json.Basic
import Triage.Text.Numeral

/-!
# Integers in JSON values

Any value can be asked for the integer it stands for: truth values are one and zero, numbers lose
their fraction, and strings are read as numerals with digits of any script.
-/

namespace Triage.Json

/-- What asking a value for an integer gives. An infinite number has none and is told apart. -/
inductive Reading where
  | integer (n : Int)
  | unreadable
  | infinite
  deriving DecidableEq, Repr

def toInteger (limit : DigitLimit) : Json → Reading
  | .bool b => .integer (if b then 1 else 0)
  | .int n => .integer n
  | .float x =>
    match x with
    | .infinite _ => .infinite
    | _ => (x.truncate?).elim .unreadable .integer
  | .str s =>
    let read := s.string?.bind fun text => (Text.readInteger limit 10 text.toList).toOption
    read.elim .unreadable .integer
  | _ => .unreadable

end Triage.Json
