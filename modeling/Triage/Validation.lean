import Triage.Text.Find
import Triage.Text.Integer
import Triage.Text.Utf8
import Triage.Time.Duration
import Triage.Time.Timestamp
import Triage.Value.Text

/-!
# Checking values against their expected shapes

A check gives the value it was looking for or complaints, each with the place it is about. Checks of
several fields are put together as applicatives, so that the complaints of all fields are collected
in order.
-/

namespace Triage

/-- What is wrong with a value. -/
inductive Complaint where
  | missing
  | extra
  | keyNotString
  | notString
  | notUnicode
  | notList
  | notMapping
  | notModel (model : String)
  | notOneOf (options : List String)
  | notFalse
  | notBool
  | unclearBool
  | notInteger
  | unreadableInteger
  | fractionalInteger
  | infiniteInteger
  | hugeInteger
  | negative
  | notMoment
  | hugeMoment (fault : Moment.RangeFault)
  | unreadableMoment (fault : Moment.TextFault)
  | badDuration (fault : Duration.Fault)
  deriving DecidableEq, Repr

/-- Options in single quotes, with `or` before the last one. -/
def orList : List String → String
  | [] => ""
  | [a] => "'" ++ a ++ "'"
  | [a, b] => "'" ++ a ++ "' or '" ++ b ++ "'"
  | a :: rest => "'" ++ a ++ "', " ++ orList rest

def Complaint.message : Complaint → String
  | .missing => "Field required"
  | .extra => "Extra inputs are not permitted"
  | .keyNotString => "Keys should be strings"
  | .notString => "Input should be a valid string"
  | .notUnicode => "Input should be a valid string, unable to parse raw data as a unicode string"
  | .notList => "Input should be a valid list"
  | .notMapping => "Input should be a valid dictionary"
  | .notModel model => "Input should be a valid dictionary or instance of " ++ model
  | .notOneOf options => "Input should be " ++ orList options
  | .notFalse => "Input should be False"
  | .notBool => "Input should be a valid boolean"
  | .unclearBool => "Input should be a valid boolean, unable to interpret input"
  | .notInteger => "Input should be a valid integer"
  | .unreadableInteger => "Input should be a valid integer, unable to parse string as an integer"
  | .fractionalInteger => "Input should be a valid integer, got a number with a fractional part"
  | .infiniteInteger => "Input should be a finite number"
  | .hugeInteger => "Unable to parse input string as an integer, exceeded maximum size"
  | .negative => "Input should be greater than or equal to 0"
  | .notMoment => "Input should be a valid datetime"
  | .hugeMoment fault => "Input should be a valid datetime, " ++ fault.message
  | .unreadableMoment (.date fault) => "Input should be a valid datetime or date, " ++ fault.message
  | .unreadableMoment (.count fault) => "Input should be a valid datetime or date, " ++ fault.message
  | .unreadableMoment (.range fault) => "Input should be a valid datetime, " ++ fault.message
  | .badDuration fault => "Value error, " ++ fault.message

/-- The whole days of a duration that is too long. -/
def Complaint.excess? : Complaint → Option Nat
  | .badDuration (.tooLong days) => some days
  | _ => none

/-- A complaint about the value at the given path. -/
structure FieldFault where
  path : List String
  complaint : Complaint
  deriving DecidableEq, Repr

/-- Place and message; the name stands in for an empty place. -/
def FieldFault.text (name : String) (f : FieldFault) : String :=
  let place := Text.join "." f.path
  (if place = "" then name else place) ++ ": " ++ f.complaint.message

def FieldFault.texts (name : String) (fs : List FieldFault) : String :=
  Text.join "; " (fs.map (·.text name))

/-- A value of the expected shape, or what is wrong. -/
inductive Checked (α : Type) where
  | ok (value : α)
  | faulty (faults : List FieldFault)

namespace Checked

variable {α β : Type}

def faults : Checked α → List FieldFault
  | ok _ => []
  | faulty fs => fs

def map (f : α → β) : Checked α → Checked β
  | ok a => ok (f a)
  | faulty fs => faulty fs

/-- Applies a checked function to a checked value, with the complaints of both. -/
def ap (f : Checked (α → β)) (x : Checked α) : Checked β :=
  match f, x with
  | ok g, ok a => ok (g a)
  | ok _, faulty fs => faulty fs
  | faulty fs, ok _ => faulty fs
  | faulty fs, faulty gs => faulty (fs ++ gs)

instance : Applicative Checked where
  pure := ok
  map := map
  seq f x := ap f (x ())

def fail (c : Complaint) : Checked α := faulty [⟨[], c⟩]

def under (place : String) : Checked α → Checked α
  | ok a => ok a
  | faulty fs => faulty (fs.map fun f => { f with path := place :: f.path })

def bind (x : Checked α) (f : α → Checked β) : Checked β :=
  match x with
  | ok a => f a
  | faulty fs => faulty fs

/-- Adds complaints that do not depend on the value. -/
def andAlso (x : Checked α) (more : List FieldFault) : Checked α :=
  match x, more with
  | x, [] => x
  | ok _, more => faulty more
  | faulty fs, more => faulty (fs ++ more)

def all (check : α → Checked β) : Nat → List α → Checked (List β)
  | _, [] => ok []
  | i, a :: as => ap (map List.cons (under (toString i) (check a))) (all check (i + 1) as)

end Checked

namespace Value

/-- The place name of a key that is not a string: truth values count as numbers there, and numbers
that are too long have no text. -/
def keyPlace : Value → String
  | .bool b => if b then "1" else "0"
  | .str s => s.string
  | .int n =>
    if (DigitLimit.standard.numberFault? n).isSome then "<unprintable int object>"
    else (Value.int n).literal
  | v => v.literal

/-- Texts, and bytes that encode one. -/
def asString : Value → Checked String
  | .str s => .ok s.string
  | .bytes bs =>
    match Text.decodeUtf8 bs with
    | .ok s => .ok s
    | .error _ => .fail .notUnicode
  | _ => .fail .notString

/-- A check of the characters that a text or bytes consist of; `other` is for bytes without such, and
for values of other kinds there is `none`. -/
def word? (other : Complaint) : Value → Option (Checked String)
  | .str s => some (s.string?.elim (.fail .notUnicode) .ok)
  | .bytes bs => some ((Text.decodeUtf8 bs).toOption.elim (.fail other) .ok)
  | _ => none

/-- Null counts as an absent value. -/
def optional {α : Type} (check : Value → Checked α) : Value → Checked (Option α)
  | .null => .ok none
  | v => (check v).map some

def asList {α : Type} (check : Value → Checked α) : Value → Checked (List α)
  | .list items => Checked.all check 0 items
  | _ => .fail .notList

/-- A single string counts as a list of one. -/
def asStrings : Value → Checked (List String)
  | .str s => .ok [s.string]
  | v => asList asString v

def asOneOf {α : Type} (options : List (String × α)) (v : Value) : Checked α :=
  let refused : Checked α := .fail (.notOneOf (options.map (·.1)))
  match v with
  | .str s =>
    match s.string? with
    | some text => (options.lookup text).elim refused .ok
    | none => .fail .notUnicode
  | _ => refused

def trueWords : List String := ["1", "on", "t", "true", "y", "yes"]
def falseWords : List String := ["0", "off", "f", "false", "n", "no"]

def boolOfWord (s : String) : Checked Bool :=
  let word := s.map Char.toLower
  if word ∈ trueWords then .ok true
  else if word ∈ falseWords then .ok false
  else .fail .unclearBool

/-- One and zero are truth values; other numbers are told apart by whether they fit into 64 bits. -/
def boolOfInteger (n : Int) : Checked Bool :=
  if n = 1 then .ok true
  else if n = 0 then .ok false
  else if -0x8000000000000000 ≤ n ∧ n < 0x8000000000000000 then .fail .unclearBool
  else .fail .notBool

/-- Truth values, the numbers one and zero, and the usual words for them in any case. -/
def asBool (v : Value) : Checked Bool :=
  match v, v.word? .unclearBool with
  | .bool b, _ => .ok b
  | .int n, _ => boolOfInteger n
  | .float x, _ =>
    match x.toInt? with
    | some n => if n.natAbs < 0x8000000000000000 then boolOfInteger n else .fail .notBool
    | none => .fail .notBool
  | _, some word => word.bind boolOfWord
  | _, none => .fail .notBool

def integerOfWord (s : String) : Checked Int :=
  match Text.looseInteger s with
  | .ok n => .ok n
  | .error .unreadable => .fail .unreadableInteger
  | .error .huge => .fail .hugeInteger

/-- Integers, truth values, numbers without a fraction, and their texts. -/
def asInteger (v : Value) : Checked Int :=
  match v, v.word? .unreadableInteger with
  | .bool b, _ => .ok (if b then 1 else 0)
  | .int n, _ => .ok n
  | .float x, _ =>
    if !x.isFinite then .fail .infiniteInteger
    else
      match x.toInt? with
      | none => .fail .fractionalInteger
      | some n => if n.natAbs < 0x8000000000000000 then .ok n else .fail .hugeInteger
  | _, some word => word.bind integerOfWord
  | _, none => .fail .notInteger

def momentOfCount (m : Except Moment.RangeFault Moment) : Checked Moment :=
  match m with
  | .ok m => .ok m
  | .error fault => .fail (.hugeMoment fault)

def momentOfText (s : String) : Checked Moment :=
  match Moment.ofText s with
  | .ok m => .ok m
  | .error fault => .fail (.unreadableMoment fault)

/-- ISO texts, and counts of seconds since 1970. -/
def asMoment : Value → Checked Moment
  | .moment m => .ok m
  | .int n => (Moment.ofInteger? n).elim (.fail .notMoment) momentOfCount
  | .float x => momentOfCount (Moment.ofFloatCount x)
  | .str s => (s.string?).elim (.fail .notUnicode) momentOfText
  | _ => .fail .notMoment

namespace Mapping

/-- The field of a mapping, or the default where the key is absent. -/
def fieldOr {α : Type} (default : α) (key : String) (check : Value → Checked α) (m : Mapping) :
    Checked α :=
  match entry? key m with
  | some v => (check v).under key
  | none => .ok default

def required {α : Type} (key : String) (check : Value → Checked α) (m : Mapping) : Checked α :=
  match entry? key m with
  | some v => (check v).under key
  | none => .faulty [⟨[key], .missing⟩]

/-- The complaint about a key that is none of the known fields. -/
def strayFault? (known : List String) (key : Value) : Option FieldFault :=
  match key with
  | .str k => if k.string ∈ known then none else some ⟨[k.string], .extra⟩
  | k => some ⟨[k.keyPlace], .keyNotString⟩

def strayFaults (known : List String) (m : Mapping) : List FieldFault :=
  m.filterMap fun e => strayFault? known e.1

/-- Whether a key has no characters to compare with the names of fields. -/
def hasBrokenKey (m : Mapping) : Bool :=
  m.any fun e =>
    match e.1 with
    | .str k => k.hasHalf
    | _ => false

/-- Checks the fields of a mapping that may hold no others. The complaints about its keys come last,
in the order of the keys; a key without characters leaves no other complaint. -/
def closed {α : Type} (known : List String) (check : Mapping → Checked α) (m : Mapping) :
    Checked α :=
  if hasBrokenKey m then .fail .notUnicode else (check m).andAlso (strayFaults known m)

end Mapping

end Value

end Triage
