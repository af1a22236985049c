import Triage.Json.Basic
import Triage.Text.Numeral
import Triage.Time.Moment

/-!
# Document values

What a configuration document holds: the values of JSON, bytes, dates and moments, and mappings whose
keys may be any value. Numeric keys that are equal are one key, whatever their type.
-/

namespace Triage

inductive Value where
  | null
  | bool (b : Bool)
  | int (n : Int)
  | float (x : Binary64)
  | str (s : CodeText)
  | bytes (bs : List Nat)
  | date (d : Date)
  | moment (m : Moment)
  | list (items : List Value)
  | map (entries : List (Value × Value))
  deriving Inhabited

namespace Value

/-- A mapping as it was read, in the order of its keys. -/
abbrev Mapping := List (Value × Value)

mutual

def ofJson : Json → Value
  | .null => .null
  | .bool b => .bool b
  | .int n => .int n
  | .float x => .float x
  | .str s => .str s
  | .arr items => .list (ofJsonItems items)
  | .obj fields => .map (ofJsonFields fields)

def ofJsonItems : List Json → List Value
  | [] => []
  | j :: js => ofJson j :: ofJsonItems js

def ofJsonFields : List (CodeText × Json) → List (Value × Value)
  | [] => []
  | (k, j) :: fs => (.str k, ofJson j) :: ofJsonFields fs

end

/-- The integer a number equals; truth values count as one and zero. -/
def asInteger? : Value → Option Int
  | .bool b => some (if b then 1 else 0)
  | .int n => some n
  | .float x => x.toInt?
  | _ => none

def sameKey : Value → Value → Bool
  | .null, .null => true
  | .str a, .str b => a == b
  | .bytes a, .bytes b => a == b
  | .date a, .date b => a == b
  | .moment a, .moment b =>
    match a.offset, b.offset with
    | none, none => a.ticks == b.ticks
    | some _, some _ =>
      (a.ticks : Int) - a.offset.getD 0 == b.ticks - b.offset.getD 0
    | _, _ => false
  | .float a, .float b => a == b || (a.toInt?.isSome && a.toInt? == b.toInt?)
  | a, b =>
    match a.asInteger?, b.asInteger? with
    | some m, some n => m == n
    | _, _ => false

/-- Whether a value can be a key: collections cannot. -/
def isKey : Value → Bool
  | .list _ => false
  | .map _ => false
  | _ => true

/-- Puts an entry under a key; a key that is there keeps its first spelling. -/
def putEntry (key value : Value) : Mapping → Mapping
  | [] => [(key, value)]
  | e :: es => if sameKey e.1 key then (e.1, value) :: es else e :: putEntry key value es

def entry? (key : CodeText) : Mapping → Option Value
  | [] => none
  | (.str k, v) :: es => if k = key then some v else entry? key es
  | _ :: es => entry? key es

def ofStrings (items : List String) : Value := .list (items.map fun (s : String) => .str s)

def Mapping.ofFields (fields : List (String × Option Value)) : Mapping :=
  fields.filterMap fun f => f.2.map fun v => (.str f.1, v)

mutual

/-- The fault of writing a value out under a limit: that of the first integer with too many digits. -/
def numberFault? (limit : DigitLimit) : Value → Option NumeralFault
  | .int n => limit.numberFault? n
  | .list items => itemFault? limit items
  | .map entries => entryFault? limit entries
  | _ => none

def itemFault? (limit : DigitLimit) : List Value → Option NumeralFault
  | [] => none
  | v :: vs => (numberFault? limit v).or (itemFault? limit vs)

def entryFault? (limit : DigitLimit) : List (Value × Value) → Option NumeralFault
  | [] => none
  | (k, v) :: es => (numberFault? limit k).or ((numberFault? limit v).or (entryFault? limit es))

end

end Value

end Triage
