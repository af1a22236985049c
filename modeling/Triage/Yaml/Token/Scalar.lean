import Triage.Text.Digit
import Triage.Yaml.Token

/-!
# Scalars

The text of a scalar in each style: plain and quoted scalars fold their line breaks, block scalars
keep or fold them as their header says. Every function starts at the scalar's first character and
returns the place after its last.
-/

namespace Triage.Yaml.Scalar

open Cursor

/-- A line break inside a folded scalar: one break alone is a space, each further one is kept. -/
def folded (first : Char) (more : List Char) : List Char :=
  if first ≠ '\n' then first :: more else if more = [] then [' '] else more

/-- The breaks of the empty lines that follow a line of a quoted scalar. -/
def quotedBreaks : Nat → Cursor → Except SyntaxFault (List Char × Cursor)
  | 0, c => .ok ([], c)
  | fuel + 1, c =>
    if c.atDocumentMarker then .error (c.fault .documentMarker)
    else
      let c := c.skipWhile fun ch => ch == ' ' || ch == '\t'
      match c.lineBreak with
      | (some b, c') => (quotedBreaks fuel c').map fun r => (b :: r.1, r.2)
      | (none, _) => .ok ([], c)

def escapes : List (Char × Char) :=
  [('0', Char.ofNat 0), ('a', '\x07'), ('b', '\x08'), ('t', '\t'), ('\t', '\t'), ('n', '\n'),
    ('v', '\x0b'), ('f', '\x0c'), ('r', '\r'), ('e', '\x1b'), (' ', ' '), ('"', '"'), ('\\', '\\'),
    ('/', '/'), ('N', '\x85'), ('_', '\xa0'), ('L', '\u2028'), ('P', '\u2029')]

def escapeWidth? : Char → Option Nat
  | 'x' => some 2
  | 'u' => some 4
  | 'U' => some 8
  | _ => none

/-- What an escape stands for; the cursor is behind its backslash. -/
def escape (c : Cursor) : Except SyntaxFault (List CodePoint × Cursor) :=
  match c.peek with
  | none => .error (c.fault .escape)
  | some ch =>
    match escapes.lookup ch, escapeWidth? ch with
    | some r, _ => .ok ([.char r], c.next)
    | none, some width =>
      let ds := (c.rest.drop 1).take width
      if ds.length = width && ds.all fun d => (Text.asciiDigit? d).isSome then
        let code := Text.numeralIn 16 ds
        match CodePoint.ofCode? code with
        | some p => .ok ([p], c.forward (width + 1))
        | none => .error (c.fault (.escapedCode code))
      else .error (c.fault .escape)
    | none, none =>
      match c.lineBreak with
      | (some _, c') =>
        (quotedBreaks (c'.left + 1) c').map fun r => (r.1.map .char, r.2)
      | (none, _) => .error (c.fault .escape)

/-- The rest of a quoted scalar up to its closing quote. -/
def quotedRest (quote : Char) : Nat → Cursor → Except SyntaxFault (List CodePoint × Cursor)
  | 0, c => .error (c.fault .endOfText)
  | fuel + 1, c =>
    match c.peek with
    | none => .error (c.fault .endOfText)
    | some ch =>
      let resume (part : List CodePoint) (c' : Cursor) :=
        (quotedRest quote fuel c').map fun r => (part ++ r.1, r.2)
      let go (part : List Char) (c' : Cursor) := resume (part.map .char) c'
      if ch == quote then
        if quote == '\'' && c.peekAt 1 == some '\'' then go ['\''] (c.forward 2) else .ok ([], c.next)
      else if quote == '"' && ch == '\\' then
        match escape c.next with
        | .error e => .error e
        | .ok (part, c') => resume part c'
      else if isGap ch then
        let (spaces, c') := c.takeWhile fun x => x == ' ' || x == '\t'
        match c'.lineBreak with
        | (some b, c'') =>
          match quotedBreaks (c''.left + 1) c'' with
          | .error e => .error e
          | .ok (more, after) => go (folded b more) after
        | (none, _) => if c'.peek.isNone then .error (c'.fault .endOfText) else go spaces c'
      else go [ch] c.next

def quoted (c : Cursor) : Except SyntaxFault (List CodePoint × Cursor) :=
  quotedRest (c.peek.getD '"') (c.left + 1) c.next

/-- Whether a plain scalar ends before the character, given what follows it. -/
def endsPlain (inFlow : Bool) (ch : Char) (after : Option Char) : Bool :=
  isGap ch ||
    (ch == ':' && after.all fun a => isGap a || (inFlow && a ∈ [',', '[', ']', '{', '}'])) ||
    (inFlow && ch ∈ [',', '?', '[', ']', '{', '}'])

/-- The characters of a plain scalar up to the next gap or indicator. -/
def plainRun (inFlow : Bool) : List Char → List Char
  | [] => []
  | ch :: rest => if endsPlain inFlow ch rest.head? then [] else ch :: plainRun inFlow rest

/-- The breaks of the empty lines inside a plain scalar; none when a document marker ends it. -/
def plainBreaks : Nat → Cursor → Option (List Char) × Cursor
  | 0, c => (some [], c)
  | fuel + 1, c =>
    let c := c.skipWhile (· == ' ')
    match c.lineBreak with
    | (some b, c') =>
      if c'.atDocumentMarker then (none, c')
      else
        let r := plainBreaks fuel c'
        (r.1.map (b :: ·), r.2)
    | (none, _) => (some [], c)

/-- What lies between two runs of a plain scalar. -/
structure PlainGap where
  /-- How the gap reads, if the scalar goes on after it; absent when it cannot. -/
  text : Option (List Char)
  crossedLine : Bool
  after : Cursor

def plainGap (c : Cursor) : PlainGap :=
  let (spaces, c') := c.takeWhile (· == ' ')
  match c'.lineBreak with
  | (some b, c'') =>
    if c''.atDocumentMarker then ⟨none, true, c''⟩
    else
      let (breaks, after) := plainBreaks (c''.left + 1) c''
      ⟨breaks.map (folded b), true, after⟩
  | (none, _) => ⟨if spaces = [] then none else some spaces, false, c'⟩

/-- The text of a plain scalar, whether it ended at the start of a line, and the place after it. -/
def plainFrom (inFlow : Bool) (indent : Int) (gap : List Char) (crossed : Bool) :
    Nat → Cursor → List Char × Bool × Cursor
  | 0, c => ([], crossed, c)
  | fuel + 1, c =>
    let run := if c.isAt (· == '#') then [] else plainRun inFlow c.rest
    if run = [] then ([], crossed, c)
    else
      let g := plainGap (c.forward run.length)
      let rest :=
        match g.text with
        | none => ([], g.crossedLine, g.after)
        | some text =>
          if g.after.isAt (· == '#') || (!inFlow && g.after.column < indent) then
            ([], g.crossedLine, g.after)
          else plainFrom inFlow indent text g.crossedLine fuel g.after
      (gap ++ run ++ rest.1, rest.2)

def plain (inFlow : Bool) (indent : Int) (c : Cursor) : List Char × Bool × Cursor :=
  plainFrom inFlow indent [] false (c.left + 1) c

/-- What a block scalar does with the line breaks at its end. -/
inductive Chomping where
  | strip
  | clip
  | keep
  deriving DecidableEq, Repr

def chomping? : Char → Option Chomping
  | '+' => some .keep
  | '-' => some .strip
  | _ => none

/-- Chomping and indentation indicators, in either order, and the rest of the header's line. -/
def blockHeader (c : Cursor) : Except SyntaxFault (Chomping × Option Nat × Cursor) :=
  let indentAt (c : Cursor) : Option Nat := c.peek.bind fun d => if d.isDigit then
    Text.asciiDigit? d else none
  let (chomping, increment, c) :=
    match c.peek.bind chomping? with
    | some ch =>
      let c := c.next
      match indentAt c with
      | some n => (ch, some n, c.next)
      | none => (ch, none, c)
    | none =>
      match indentAt c with
      | some n =>
        let c := c.next
        match c.peek.bind chomping? with
        | some ch => (ch, some n, c.next)
        | none => (.clip, some n, c)
      | none => (.clip, none, c)
  if increment = some 0 || !c.endsOr (fun x => x == ' ' || isBreak x) then
    .error (c.fault .blockScalarHeader)
  else
    let c := c.skipComment
    if c.endsOr isBreak then .ok (chomping, increment, c.lineBreak.2)
    else .error (c.fault .blockScalarHeader)

/-- Leading empty lines of a block scalar, and the widest indentation among them and the first line
with text. -/
def blockIndentation : Nat → Nat → Cursor → List Char × Nat × Cursor
  | 0, widest, c => ([], widest, c)
  | fuel + 1, widest, c =>
    if c.isAt (· == ' ') then
      let c := c.next
      blockIndentation fuel (max widest c.column) c
    else
      match c.lineBreak with
      | (some b, c') =>
        let r := blockIndentation fuel widest c'
        (b :: r.1, r.2)
      | (none, _) => ([], widest, c)

def skipIndent (indent : Nat) (c : Cursor) : Cursor :=
  c.forward ((c.rest.take (indent - c.column)).takeWhile (· == ' ')).length

/-- The breaks of empty lines between the lines of a block scalar. -/
def blockBreaks (indent : Nat) : Nat → Cursor → List Char × Cursor
  | 0, c => ([], c)
  | fuel + 1, c =>
    let c := skipIndent indent c
    match c.lineBreak with
    | (some b, c') =>
      let r := blockBreaks indent fuel c'
      (b :: r.1, r.2)
    | (none, _) => ([], c)

/-- The lines of a block scalar. Each comes with the breaks before it. The result is the text, then
the last line's break and the breaks after it, which chomping decides on. -/
def blockLines (fold : Bool) (indent : Nat) (breaks : List Char) :
    Nat → Cursor → List Char × List Char × List Char × Cursor
  | 0, c => ([], [], breaks, c)
  | fuel + 1, c =>
    if c.column = indent ∧ c.peek.isSome = true then
      let startsWithText := !c.isAt fun x => x == ' ' || x == '\t'
      let (line, c) := c.takeWhile (!isBreak ·)
      let (lineEnd, c) := c.lineBreak
      let lineEnd := lineEnd.toList
      let (later, c) := blockBreaks indent (c.left + 1) c
      if c.column = indent ∧ c.peek.isSome = true then
        let joined :=
          if fold && lineEnd == ['\n'] && startsWithText &&
              !c.isAt fun x => x == ' ' || x == '\t' then
            if later = [] then [' '] else []
          else lineEnd
        let r := blockLines fold indent later fuel c
        (breaks ++ line ++ joined ++ r.1, r.2)
      else (breaks ++ line, lineEnd, later, c)
    else ([], [], breaks, c)

/-- A block scalar from its indicator on, inside a block of the given indentation. -/
def block (parentIndent : Int) (c : Cursor) : Except SyntaxFault (List Char × Cursor) :=
  let fold := c.isAt (· == '>')
  match blockHeader c.next with
  | .error e => .error e
  | .ok (chomping, increment, c) =>
    let least := (max (parentIndent + 1) 1).toNat
    let fuel := c.left + 1
    let (breaks, indent, c) :=
      match increment with
      | none =>
        let r := blockIndentation fuel 0 c
        (r.1, max least r.2.1, r.2.2)
      | some n =>
        let indent := least + n - 1
        let r := blockBreaks indent fuel c
        (r.1, indent, r.2)
    let (text, lineEnd, later, c) := blockLines fold indent breaks fuel c
    let tail :=
      match chomping with
      | .strip => []
      | .clip => lineEnd
      | .keep => lineEnd ++ later
    .ok (text ++ tail, c)

end Triage.Yaml.Scalar
