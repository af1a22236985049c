import Triage.Text.Utf8
import Triage.Yaml.Token.Scalar

/-!
# Cutting a YAML text into tokens

Block structure is made explicit here: indentation opens and closes collections, and the place where
a key may have begun is remembered until a colon shows that it was one. `Token.scan` gives the tokens
of a whole text. Where a text cannot be cut any further, the last token says so; the tokens that
could still have become keys are then not given.
-/

namespace Triage.Yaml

/-- A place where a key without its own indicator may have begun. -/
structure KeyPlace where
  tokenIndex : Nat
  required : Bool
  index : Nat
  line : Nat
  column : Nat

/-- `indents` are the columns of the enclosing block collections; `keys` holds the possible key of
each flow level. -/
structure ScanState where
  cursor : Cursor
  tokens : Array Placed
  flowLevel : Nat
  indent : Int
  indents : List Int
  keyAllowed : Bool
  keys : List (Nat × KeyPlace)

namespace ScanState

def ofText (text : List Char) : ScanState :=
  ⟨Cursor.ofText text, #[], 0, -1, [], true, []⟩

def fault {α : Type} (s : ScanState) (p : Problem) : Except SyntaxFault α := .error (s.cursor.fault p)

def inFlow (s : ScanState) : Bool := s.flowLevel != 0

def emit (s : ScanState) (t : Token) : ScanState :=
  { s with tokens := s.tokens.push ⟨t, s.cursor.line, s.cursor.column⟩ }

def emitAt (s : ScanState) (place : Cursor) (t : Token) : ScanState :=
  { s with tokens := s.tokens.push ⟨t, place.line, place.column⟩ }

/-- Skips spaces, comments and line breaks. A new line of block content may begin with a key. -/
def skipGaps : Nat → ScanState → ScanState
  | 0, s => s
  | fuel + 1, s =>
    let c := s.cursor.skipComment
    match c.lineBreak with
    | (some _, c') => skipGaps fuel { s with cursor := c', keyAllowed := s.keyAllowed || !s.inFlow }
    | (none, _) => { s with cursor := c }

/-- A key must end on its line and within 1024 characters. -/
def isStale (s : ScanState) (k : KeyPlace) : Bool :=
  k.line != s.cursor.line || 1024 < s.cursor.index - k.index

/-- Forgets the places where a key can no longer have begun. -/
def dropStaleKeys (s : ScanState) : Except SyntaxFault ScanState :=
  if s.keys.any fun k => s.isStale k.2 && k.2.required then s.fault .expectedColon
  else .ok { s with keys := s.keys.filter fun k => !s.isStale k.2 }

/-- The tokens before the first that may still become a key, and the fault behind them. -/
def broken (fault : SyntaxFault) (s : ScanState) : Array Placed :=
  let pending := (s.keys.filter fun k => !s.isStale k.2).map fun k => k.2.tokenIndex
  let certain := (pending.min?).getD s.tokens.size
  (s.tokens.take certain).push ⟨.broken fault, fault.line, fault.column⟩

def removeKey (s : ScanState) : Except SyntaxFault ScanState :=
  match s.keys.lookup s.flowLevel with
  | some k =>
    if k.required then s.fault .expectedColon
    else .ok { s with keys := s.keys.filter (·.1 != s.flowLevel) }
  | none => .ok s

/-- Remembers that a key may begin here, where one is allowed. -/
def saveKey (s : ScanState) : Except SyntaxFault ScanState :=
  if s.keyAllowed then
    let required := !s.inFlow && s.indent == s.cursor.column
    (s.removeKey).map fun s =>
      let place : KeyPlace :=
        ⟨s.tokens.size, required, s.cursor.index, s.cursor.line, s.cursor.column⟩
      { s with keys := (s.flowLevel, place) :: s.keys }
  else .ok s

/-- Closes the block collections that are indented more than the column. -/
def closeBlocks (column : Int) (s : ScanState) : ScanState :=
  if s.inFlow then s
  else
    let rec go : List Int → Int → ScanState → ScanState
      | [], indent, s => { s with indent := indent, indents := [] }
      | outer :: rest, indent, s =>
        if column < indent then go rest outer (s.emit .blockEnd)
        else { s with indent := indent, indents := outer :: rest }
    go s.indents s.indent s

/-- Opens a block collection at the column when it is indented more than the current one. -/
def openBlock (column : Int) (s : ScanState) : Option ScanState :=
  if s.indent < column then some { s with indents := s.indent :: s.indents, indent := column }
  else none

def take (t : Token) (width : Nat) (s : ScanState) : ScanState :=
  let s := s.emit t
  { s with cursor := s.cursor.forward width }

/-- Ends all blocks, as the end of the text and document markers do. -/
def endBlocks (s : ScanState) : Except SyntaxFault ScanState :=
  (s.closeBlocks (-1)).removeKey.map fun s => { s with keyAllowed := false }

def scanFlowStart (t : Token) (s : ScanState) : Except SyntaxFault ScanState :=
  s.saveKey.map fun s =>
    { s with flowLevel := s.flowLevel + 1, keyAllowed := true }.take t 1

def scanFlowEnd (t : Token) (s : ScanState) : Except SyntaxFault ScanState :=
  if s.inFlow then
    s.removeKey.map fun s => { s with flowLevel := s.flowLevel - 1, keyAllowed := false }.take t 1
  else s.fault .unexpectedToken

def scanFlowEntry (s : ScanState) : Except SyntaxFault ScanState :=
  { s with keyAllowed := true }.removeKey.map (take .flowEntry 1)

def scanBlockEntry (s : ScanState) : Except SyntaxFault ScanState :=
  if !s.inFlow && !s.keyAllowed then s.fault .sequenceEntry
  else
    let opened := if s.inFlow then none else s.openBlock s.cursor.column
    let s := (opened.map (emit · .blockSequenceStart)).getD s
    { s with keyAllowed := true }.removeKey.map (take .blockEntry 1)

def scanKey (s : ScanState) : Except SyntaxFault ScanState :=
  if !s.inFlow && !s.keyAllowed then s.fault .mappingKey
  else
    let opened := if s.inFlow then none else s.openBlock s.cursor.column
    let s := (opened.map (emit · .blockMappingStart)).getD s
    { s with keyAllowed := !s.inFlow }.removeKey.map (take .key 1)

/-- A colon: what was remembered as a possible key becomes one, and opens a mapping if it is indented
more than the current block. Otherwise the colon belongs to a key with its own indicator. -/
def scanValue (s : ScanState) : Except SyntaxFault ScanState :=
  match s.keys.lookup s.flowLevel with
  | some k =>
    let s := { s with keys := s.keys.filter (·.1 != s.flowLevel), keyAllowed := false }
    let place (t : Token) : Placed := ⟨t, k.line, k.column⟩
    let s := { s with tokens := s.tokens.insertIdxIfInBounds k.tokenIndex (place .key) }
    let opened := if s.inFlow then none else s.openBlock k.column
    let s := (opened.map fun s =>
      { s with tokens := s.tokens.insertIdxIfInBounds k.tokenIndex (place .blockMappingStart) }).getD s
    .ok (s.take .value 1)
  | none =>
    if !s.inFlow && !s.keyAllowed then s.fault .mappingValue
    else
      let opened := if s.inFlow then none else s.openBlock s.cursor.column
      let s := (opened.map (emit · .blockMappingStart)).getD s
      { s with keyAllowed := !s.inFlow }.removeKey.map (take .value 1)

def scanAnchor (make : String → Token) (s : ScanState) : Except SyntaxFault ScanState :=
  s.saveKey.bind fun s =>
    let start := s.cursor
    let (name, c) := s.cursor.next.takeWhile isNameChar
    let ends := c.endsOr fun ch => isGap ch || ch ∈ ['?', ':', ',', ']', '}', '%', '@', '\x60']
    if name = [] || !ends then .error (c.fault .anchorName)
    else .ok ({ s with cursor := c, keyAllowed := false }.emitAt start (make (String.ofList name)))

/-- Characters of a tag's text, percent escapes apart. -/
def isTagChar (c : Char) : Bool :=
  c.isAlphanum || c ∈ ['-', ';', '/', '?', ':', '@', '&', '=', '+', '$', ',', '_', '.', '!', '~', '*',
    '\'', '(', ')', '[', ']']

/-- The bytes of the percent escapes at the front, and how many characters they take. -/
def percentBytes? : List Char → Option (List Nat × Nat)
  | '%' :: a :: b :: rest => do
    let x ← Text.asciiDigit? a
    let y ← Text.asciiDigit? b
    let (bytes, width) ← percentBytes? rest
    return ((16 * x + y) :: bytes, width + 3)
  | '%' :: _ => none
  | _ => some ([], 0)

/-- The text of a tag; escaped bytes in a row encode text. -/
def tagText : Nat → Cursor → Option (List Char × Cursor)
  | 0, _ => none
  | fuel + 1, c =>
    match c.peek with
    | none => some ([], c)
    | some ch =>
      if isTagChar ch then (tagText fuel c.next).map fun r => (ch :: r.1, r.2)
      else if ch == '%' then do
        let (bytes, width) ← percentBytes? c.rest
        let decoded ← (Text.decodeUtf8 bytes).toOption
        let (more, after) ← tagText fuel (c.forward width)
        return (decoded.toList ++ more, after)
      else some ([], c)

def tagText? (c : Cursor) : Option (List Char × Cursor) :=
  (tagText (c.left + 1) c).bind fun r => if r.1 = [] then none else some r

/-- A tag handle: an exclamation mark, or a name between two of them. -/
def tagHandle? (c : Cursor) : Option (List Char × Cursor) :=
  if c.isAt (· == '!') then
    if c.peekAt 1 == some ' ' then some (['!'], c.next)
    else
      let (name, c') := c.next.takeWhile isNameChar
      if c'.isAt (· == '!') then some ('!' :: name ++ ['!'], c'.next) else none
  else none

def writtenTag? (c : Cursor) : Option (WrittenTag × Cursor) :=
  match c.peekAt 1 with
  | some '<' =>
    (tagText? (c.forward 2)).bind fun (text, c') =>
      if c'.isAt (· == '>') then some (⟨none, String.ofList text⟩, c'.next) else none
  | next =>
    if next.all isGap then some (⟨none, "!"⟩, c.next)
    else
      let word := (c.rest.drop 1).takeWhile fun ch => !(ch == ' ' || isBreak ch)
      if '!' ∈ word then
        (tagHandle? c).bind fun (handle, c') =>
          (tagText? c').map fun (text, c'') => (⟨some (String.ofList handle), String.ofList text⟩, c'')
      else
        (tagText? c.next).map fun (text, c') => (⟨some "!", String.ofList text⟩, c')

def scanTag (s : ScanState) : Except SyntaxFault ScanState :=
  s.saveKey.bind fun s =>
    match writtenTag? s.cursor with
    | none => s.fault .tag
    | some (t, c) =>
      if c.endsOr fun ch => ch == ' ' || isBreak ch then
        .ok ({ s with cursor := c, keyAllowed := false }.emitAt s.cursor (.tag t))
      else .error (c.fault .tag)

def versionNumber (c : Cursor) : Except Problem (Nat × Cursor) :=
  let (ds, c') := c.takeWhile Char.isDigit
  if ds = [] then .error .directive
  else
    match Text.readNumeral .standard ds with
    | .ok n => .ok (n, c')
    | .error fault => .error (.longVersion fault)

def isSpaceOrBreak (ch : Char) : Bool := ch == ' ' || isBreak ch

/-- The rest of a directive, which is malformed without it. -/
def expected {α : Type} (x : Option α) : Except Problem α := x.elim (.error .directive) .ok

def skipSpaces (c : Cursor) : Cursor := c.skipWhile (· == ' ')

def directiveValue (name : List Char) (c : Cursor) : Except Problem (Directive × Cursor) :=
  if name = "YAML".toList then do
    let (major, c) ← versionNumber (skipSpaces c)
    let c ← expected (if c.isAt (· == '.') then some c.next else none)
    let (minor, c) ← versionNumber c
    expected (if c.endsOr isSpaceOrBreak then some (.version major minor, c) else none)
  else if name = "TAG".toList then expected do
    let (handle, c) ← tagHandle? (skipSpaces c)
    let c ← if c.isAt (· == ' ') then some (skipSpaces c) else none
    let (text, c) ← tagText? c
    if c.endsOr isSpaceOrBreak then
      some (.tag (String.ofList handle) (String.ofList text), c)
    else none
  else .ok (.other, c.skipWhile (!isBreak ·))

def directive (c : Cursor) : Except Problem (Directive × Cursor) := do
  let (name, c) := c.next.takeWhile isNameChar
  let c ← expected (if name ≠ [] && c.endsOr isSpaceOrBreak then some c else none)
  let (d, c) ← directiveValue name c
  let c := c.skipComment
  expected (if c.endsOr isBreak then some (d, c.lineBreak.2) else none)

def scanDirective (s : ScanState) : Except SyntaxFault ScanState :=
  s.endBlocks.bind fun s =>
    match directive s.cursor with
    | .error problem => s.fault problem
    | .ok (d, c) => .ok ({ s with cursor := c }.emitAt s.cursor (.directive d))

def scanBlockScalar (s : ScanState) : Except SyntaxFault ScanState :=
  { s with keyAllowed := true }.removeKey.bind fun s =>
    (Scalar.block s.indent s.cursor).map fun (text, c) =>
      { s with cursor := c }.emitAt s.cursor (.scalar (.ofList text) .block)

def scanQuoted (s : ScanState) : Except SyntaxFault ScanState :=
  s.saveKey.bind fun s =>
    (Scalar.quoted s.cursor).map fun (points, c) =>
      { s with cursor := c, keyAllowed := false }.emitAt s.cursor (.scalar ⟨points⟩ .quoted)

def scanPlain (s : ScanState) : Except SyntaxFault ScanState :=
  s.saveKey.map fun s =>
    let (text, crossed, c) := Scalar.plain s.inFlow (s.indent + 1) s.cursor
    { s with cursor := c, keyAllowed := crossed }.emitAt s.cursor
      (.scalar (.ofList text) .plain)

def startsPlain (s : ScanState) (ch : Char) : Bool :=
  let indicators := ['-', '?', ':', ',', '[', ']', '{', '}', '#', '&', '*', '!', '|', '>', '\'', '"',
    '%', '@', '\x60']
  !(isGap ch || ch ∈ indicators) ||
    (!s.cursor.endsOrAt 1 isGap && (ch == '-' || (!s.inFlow && (ch == '?' || ch == ':'))))

def scanToken (ch : Char) (s : ScanState) : Except SyntaxFault ScanState :=
  let c := s.cursor
  let alone := s.inFlow || c.endsOrAt 1 isGap
  if ch == '%' && c.column == 0 then s.scanDirective
  else if c.column == 0 && c.atMarker ['-', '-', '-'] then
    s.endBlocks.map (take .documentStart 3)
  else if c.column == 0 && c.atMarker ['.', '.', '.'] then
    s.endBlocks.map (take .documentEnd 3)
  else if ch == '[' then s.scanFlowStart .flowSequenceStart
  else if ch == '{' then s.scanFlowStart .flowMappingStart
  else if ch == ']' then s.scanFlowEnd .flowSequenceEnd
  else if ch == '}' then s.scanFlowEnd .flowMappingEnd
  else if ch == ',' then s.scanFlowEntry
  else if ch == '-' && c.endsOrAt 1 isGap then s.scanBlockEntry
  else if ch == '?' && alone then s.scanKey
  else if ch == ':' && alone then s.scanValue
  else if ch == '*' then s.scanAnchor .alias
  else if ch == '&' then s.scanAnchor .anchor
  else if ch == '!' then s.scanTag
  else if (ch == '|' || ch == '>') && !s.inFlow then s.scanBlockScalar
  else if ch == '\'' || ch == '"' then s.scanQuoted
  else if s.startsPlain ch then s.scanPlain
  else s.fault .startOfToken

/-- Fetches what comes next: the tokens that the indentation calls for, and one more. At the end of
the text the result says that nothing is left. -/
def fetch (s : ScanState) : Except SyntaxFault (ScanState × Bool) :=
  (s.skipGaps (s.cursor.left + 1)).dropStaleKeys.bind fun s =>
    let s := s.closeBlocks s.cursor.column
    match s.cursor.peek with
    | none => s.endBlocks.map fun s => (s.emit .streamEnd, false)
    | some ch => (s.scanToken ch).map fun s => (s, true)

/-- Scans up to the end of the text. Every token takes at least one character. -/
def run : Nat → ScanState → Array Placed
  | 0, s => s.broken (s.cursor.fault .endOfText)
  | fuel + 1, s =>
    match s.fetch with
    | .error fault => s.broken fault
    | .ok (s, true) => run fuel s
    | .ok (s, false) => s.tokens

end ScanState

/-- The tokens of a text. A byte order mark may precede it. -/
def Token.scan (text : List Char) : Array Placed :=
  match text.find? (!isAllowed ·) with
  | some _ =>
    let fault := (Cursor.ofText text).fault .character
    #[⟨.broken fault, fault.line, fault.column⟩]
  | none =>
    let s := ScanState.ofText text
    let s := if text.head? = some '\uFEFF' then { s with cursor := s.cursor.next } else s
    s.run (text.length + 2)

end Triage.Yaml
