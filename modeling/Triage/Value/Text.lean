import Triage.Value.Basic
import Triage.Number.Shortest
import Triage.Text.Quoted
import Triage.Text.Find

/-!
# The text of a value

How a value appears as a name or inside a message: a string as it is, numbers in their shortest
form, and collections with their strings quoted.
-/

namespace Triage.Value

/-- Numbers in messages spell the exceptional values in lower case. -/
def floatText : FloatText := ⟨"nan", "inf", -4, 16, 2⟩

/-- A span of microseconds written out in days, seconds and microseconds, each left out when it is
zero. -/
def spanLiteral (span : Int) : String :=
  let days := Int.fdiv span 86400000000
  let rest := Int.fmod span 86400000000
  let part (name : String) (n : Int) : List String := if n = 0 then [] else [s!"{name}={n}"]
  let named := part "days" days ++ part "seconds" (rest / 1000000)
    ++ part "microseconds" (rest % 1000000)
  let parts := if span = 0 then "0" else Text.join ", " named
  s!"datetime.timedelta({parts})"

def offsetLiteral (offset : Int) : String :=
  if offset = 0 then "datetime.timezone.utc"
  else "datetime.timezone(" ++ spanLiteral offset ++ ")"

/-- A moment written out by its parts; trailing zero seconds and microseconds are left out. -/
def momentLiteral (m : Moment) : String :=
  let d := m.date
  let second := m.secondOfDay % 60
  let tail :=
    if m.microsecond ≠ 0 then [second, m.microsecond] else if second ≠ 0 then [second] else []
  let numbers := [d.year, d.month, d.day, m.secondOfDay / 3600, m.secondOfDay / 60 % 60] ++ tail
  let zone := (m.offset.map fun o => "tzinfo=" ++ offsetLiteral o).toList
  "datetime.datetime(" ++ Text.join ", " (numbers.map toString ++ zone) ++ ")"

mutual

/-- The text of a value inside a collection: strings are quoted. -/
def literal : Value → String
  | .null => "None"
  | .bool b => if b then "True" else "False"
  | .int n => String.ofList (Text.ofInt n)
  | .float x => String.ofList (floatText.write x)
  | .str s => Text.quoted s
  | .bytes bs => Text.quotedBytes bs
  | .date d => s!"datetime.date({d.year}, {d.month}, {d.day})"
  | .moment m => momentLiteral m
  | .list items => "[" ++ Text.join ", " (literalItems items) ++ "]"
  | .map entries => "\x7b" ++ Text.join ", " (literalEntries entries) ++ "\x7d"

def literalItems : List Value → List String
  | [] => []
  | v :: vs => literal v :: literalItems vs

def literalEntries : List (Value × Value) → List String
  | [] => []
  | (k, v) :: es => (literal k ++ ": " ++ literal v) :: literalEntries es

end

/-- The text of a value on its own. -/
def text : Value → String
  | .str s => s.string
  | .date d => String.ofList (d.text 4)
  | .moment m => m.isoTextWith ' '
  | v => literal v

end Triage.Value
