import Triage.Json.Printer
import Triage.Json.Reader
import Triage.Text.Find

/-!
# Metadata in issue bodies

Values are kept as a JSON object inside a comment at the end of an issue's body, which the rendered
issue does not show. The first comment of the body is read; writing removes every comment of the
kind and appends the new one.
-/

namespace Triage.Metadata

/-- How a metadata comment begins, up to and including the brace of its object, and how it ends. -/
def opening : List Char := "<!-- ladybug = \x7b".toList
def closing : List Char := "\x7d -->".toList

/-- Where a comment stands in a text: what precedes its opening, its object's inside, and what
follows its end. -/
structure Place where
  before : List Char
  inside : List Char
  after : List Char

/-- The first comment: it extends from its opening to the nearest end. -/
def find? (text : List Char) : Option Place :=
  (Text.cut? opening text).bind fun (before, rest) =>
    (Text.cut? closing rest).map fun (inside, after) => ⟨before, inside, after⟩

def dropTrailingNewlines (text : List Char) : List Char :=
  (text.reverse.dropWhile (· = '\n')).reverse

/-- The text without its comments and the line feeds before each. The fuel bounds the number of
comments. -/
def stripFrom : Nat → List Char → List Char
  | 0, text => text
  | fuel + 1, text =>
    match find? text with
    | none => text
    | some place => dropTrailingNewlines place.before ++ stripFrom fuel place.after

def strip (text : List Char) : List Char := stripFrom text.length text

/-- The object of the first comment; an absent or unreadable one is empty. An integer with too many
digits is a fault. -/
def readChars (limit : DigitLimit) (text : List Char) : Except NumeralFault Json.Object :=
  match find? text with
  | none => .ok []
  | some place =>
    match Json.readChars limit ('\x7b' :: place.inside ++ ['\x7d']) with
    | .ok (.obj fields) => .ok fields
    | .error (.numeral fault) => .error fault
    | _ => .ok []

def read (limit : DigitLimit) (body : Option String) : Except NumeralFault Json.Object :=
  readChars limit (body.getD "").toList

/-- The comment that holds the object, with its keys sorted. -/
def comment (fields : Json.Object) : List Char :=
  "<!-- ladybug = ".toList ++ (Json.sorted (.obj fields)).write ++ " -->".toList

def withoutNulls (fields : Json.Object) : Json.Object :=
  fields.filter fun f =>
    match f.2 with
    | .null => false
    | _ => true

/-- The text with a comment for the fields behind it; without fields there is no comment. -/
def withComment (text : List Char) (fields : Json.Object) : List Char :=
  if fields = [] then text else text ++ '\n' :: '\n' :: comment fields

/-- The body with its metadata replaced. Null fields are left out. -/
def replaced (body : Option String) (fields : Json.Object) : String :=
  String.ofList (withComment (strip (body.getD "").toList) (withoutNulls fields))

/-- Replaces the metadata of a body. An integer with too many digits is a fault. -/
def write (limit : DigitLimit) (body : Option String) (fields : Json.Object) :
    Except NumeralFault String :=
  match (Json.obj fields).numberFault? limit with
  | some fault => .error fault
  | none => .ok (replaced body fields)

/-- Sets one field of a body's metadata; null removes it. -/
def set (limit : DigitLimit) (body : Option String) (key : CodeText) (value : Json) :
    Except NumeralFault String := do
  write limit body (Entries.put key value (← read limit body))

def get (limit : DigitLimit) (body : Option String) (key : CodeText) :
    Except NumeralFault (Option Json) :=
  (read limit body).map (Entries.get? key)

end Triage.Metadata
