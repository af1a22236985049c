import Triage.Text.Blank

/-!
# Positions in a YAML text

A cursor holds the rest of the text, its length, and where it stands: the index, line and column. Line
breaks are line feed, carriage return (with or without a line feed), next line, and the line and
paragraph separators.
-/

namespace Triage.Yaml

/-- Characters a YAML text may consist of. -/
def isAllowed (c : Char) : Bool :=
  let n := c.toNat
  n == 0x09 || n == 0x0A || n == 0x0D || (0x20 ≤ n && n ≤ 0x7E) || n == 0x85 ||
    (0xA0 ≤ n && n ≤ 0xD7FF) || (0xE000 ≤ n && n ≤ 0xFFFD) || 0x10000 ≤ n

def isBreak (c : Char) : Bool :=
  c == '\n' || c == '\r' || c == '\x85' || c == '\u2028' || c == '\u2029'

/-- A space, a tab or a line break. -/
def isGap (c : Char) : Bool := c == ' ' || c == '\t' || isBreak c

/-- Letters, digits, dashes and underscores make up the names of anchors and directives. -/
def isNameChar (c : Char) : Bool := c.isAlphanum || c == '-' || c == '_'

structure Cursor where
  rest : List Char
  /-- How many characters are left. -/
  left : Nat
  index : Nat
  line : Nat
  column : Nat

namespace Cursor

def ofText (text : List Char) : Cursor := ⟨text, text.length, 0, 0, 0⟩

def peek (c : Cursor) : Option Char := c.rest.head?

def peekAt (c : Cursor) (n : Nat) : Option Char := (c.rest.drop n).head?

/-- Whether the next character is in the class; the end of the text is in none. -/
def isAt (c : Cursor) (p : Char → Bool) : Bool := c.peek.any p

/-- Whether the text ends here or goes on with a character of the class. -/
def endsOr (c : Cursor) (p : Char → Bool) : Bool := c.peek.all p

def endsOrAt (c : Cursor) (n : Nat) (p : Char → Bool) : Bool := (c.peekAt n).all p

/-- Moves over one character. A byte order mark takes no column. -/
def next (c : Cursor) : Cursor :=
  match c.rest with
  | [] => c
  | ch :: rest =>
    let onLine := !isBreak ch || (ch == '\r' && rest.head? == some '\n')
    let line := if onLine then c.line else c.line + 1
    let column := if !onLine then 0 else if ch == '\uFEFF' then c.column else c.column + 1
    ⟨rest, c.left - 1, c.index + 1, line, column⟩

def forward : Nat → Cursor → Cursor
  | 0, c => c
  | n + 1, c => forward n c.next

/-- The characters of the class that are next, and the place after them. -/
def takeWhile (c : Cursor) (p : Char → Bool) : List Char × Cursor :=
  let taken := c.rest.takeWhile p
  (taken, c.forward taken.length)

def skipWhile (c : Cursor) (p : Char → Bool) : Cursor := (c.takeWhile p).2

/-- Moves over one line break, which reads as a line feed unless it is a separator. -/
def lineBreak (c : Cursor) : Option Char × Cursor :=
  match c.rest with
  | '\r' :: '\n' :: _ => (some '\n', c.forward 2)
  | ch :: _ =>
    if ch == '\u2028' || ch == '\u2029' then (some ch, c.next)
    else if isBreak ch then (some '\n', c.next)
    else (none, c)
  | [] => (none, c)

/-- Whether one of the document markers `---` and `...` stands here on its own. -/
def atMarker (c : Cursor) (marker : List Char) : Bool :=
  marker.isPrefixOf c.rest && c.endsOrAt 3 isGap

def atDocumentMarker (c : Cursor) : Bool :=
  c.atMarker ['-', '-', '-'] || c.atMarker ['.', '.', '.']

/-- Skips spaces, and a comment up to the end of its line. -/
def skipComment (c : Cursor) : Cursor :=
  let c := c.skipWhile (· == ' ')
  if c.isAt (· == '#') then c.skipWhile (!isBreak ·) else c

end Cursor

end Triage.Yaml
