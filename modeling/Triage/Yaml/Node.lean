import Triage.Yaml.Plain
import Triage.Yaml.Token.Scan

/-!
# YAML nodes

The nodes of a document: its collections, and its scalars with the tag that was written or that style
and text give them. Nodes refer to each other by their places, since an alias may name a node that
stands elsewhere, even a collection that it is part of.
-/

namespace Triage.Yaml

/-- The place of a node among the nodes of its document. -/
abbrev NodeId := Nat

inductive Content where
  | scalar (text : CodeText)
  | seq (items : List NodeId)
  | map (entries : List (NodeId × NodeId))
  deriving Inhabited

structure Node where
  tag : Tag
  content : Content

/-- The nodes of a document, and the one that it consists of. -/
structure Document where
  root : NodeId
  nodes : Array Node

/-- What is left of the tokens, the handles in force, the anchors and the nodes seen so far. -/
structure NodeState where
  tokens : List Placed
  handles : List (String × String) := []
  anchors : List (String × NodeId) := []
  nodes : Array Node := #[]

namespace NodeState

def peek (s : NodeState) : Token := (s.tokens.head?.map (·.token)).getD .streamEnd

def next (s : NodeState) : NodeState := { s with tokens := s.tokens.drop 1 }

/-- Reports a problem with the next token, unless there is none because the text is broken there. -/
def fault {α : Type} (s : NodeState) (p : Problem) : Except SyntaxFault α :=
  match s.tokens.head? with
  | none => .error ⟨p, 0, 0⟩
  | some ⟨.broken fault, _, _⟩ => .error fault
  | some t => .error ⟨p, t.line, t.column⟩

def add (n : Node) (s : NodeState) : NodeId × NodeState :=
  (s.nodes.size, { s with nodes := s.nodes.push n })

/-- Adds the null that an empty place in a collection holds. -/
def addEmpty (s : NodeState) : NodeId × NodeState := s.add ⟨.null, .scalar ""⟩

def fill (id : NodeId) (content : Content) (s : NodeState) : NodeState :=
  { s with nodes := s.nodes.modify id fun n => { n with content } }

/-- The properties before a node: anchor and tag, in either order. -/
def properties (s : NodeState) : Option String × Option WrittenTag × NodeState :=
  match s.peek with
  | .anchor a =>
    match s.next.peek with
    | .tag t => (some a, some t, s.next.next)
    | _ => (some a, none, s.next)
  | .tag t =>
    match s.next.peek with
    | .anchor a => (some a, some t, s.next.next)
    | _ => (none, some t, s.next)
  | _ => (none, none, s)

/-- The name of a node's tag; absent when its handle is not in force. -/
def tagName? (s : NodeState) (t : WrittenTag) : Option String :=
  match t.handle with
  | none => some t.suffix
  | some h => (s.handles.lookup h).map (· ++ t.suffix)

/-- The tag of a scalar: what is written decides, then quotes make a string, else the text decides. -/
def scalarTag (name : Option String) (text : CodeText) (style : ScalarStyle) : Tag :=
  match name with
  | some "!" => Plain.tagOf text
  | some n => .ofName n
  | none => if style = .plain then Plain.tagOf text else .str

def collectionTag (default : Tag) : Option String → Tag
  | none => default
  | some n => if n = "!" then default else .ofName n

/-- Adds a node under its anchor, which may be used once in a document. -/
def begin (anchor : Option String) (n : Node) (s : NodeState) :
    Except SyntaxFault (NodeId × NodeState) :=
  match anchor with
  | none => .ok (s.add n)
  | some a =>
    if (s.anchors.lookup a).isSome then s.fault .duplicateAnchor
    else
      let (id, s) := s.add n
      .ok (id, { s with anchors := (a, id) :: s.anchors })

/-- How a node may be written where it stands. -/
inductive Place where
  | block
  | blockOrIndentless
  | flow
  deriving DecidableEq, Repr

/-- How the items of a sequence are separated and ended. -/
inductive SequenceForm where
  | block
  | indentless
  deriving DecidableEq, Repr

mutual

def node : Nat → Place → NodeState → Except SyntaxFault (NodeId × NodeState)
  | 0, _, s => s.fault .endOfText
  | fuel + 1, place, s =>
    match s.peek with
    | .alias a =>
      match s.anchors.lookup a with
      | none => s.fault .undefinedAlias
      | some id => .ok (id, s.next)
    | _ =>
      let (anchor, written, s) := s.properties
      match written.map s.tagName? with
      | some none => s.fault .tagHandle
      | name => content fuel place anchor (name.bind id) s

def content : Nat → Place → Option String → Option String → NodeState →
    Except SyntaxFault (NodeId × NodeState)
  | 0, _, _, _, s => s.fault .endOfText
  | fuel + 1, place, anchor, name, s =>
    let sequence (items : NodeState → Except SyntaxFault (List NodeId × NodeState)) :=
      (s.begin anchor ⟨collectionTag .seq name, .seq []⟩).bind fun (id, s) =>
        (items s).map fun (ids, s) => (id, s.fill id (.seq ids))
    let mapping (entries : NodeState → Except SyntaxFault (List (NodeId × NodeId) × NodeState)) :=
      (s.begin anchor ⟨collectionTag .map name, .map []⟩).bind fun (id, s) =>
        (entries s).map fun (ids, s) => (id, s.fill id (.map ids))
    match s.peek with
    | .broken fault => .error fault
    | .scalar text style =>
      (s.begin anchor ⟨scalarTag name text style, .scalar text⟩).map fun (id, s) => (id, s.next)
    | .flowSequenceStart => sequence fun s => flowItems fuel true s.next
    | .flowMappingStart => mapping fun s => flowEntries fuel true s.next
    | t =>
      if t = .blockEntry ∧ place = .blockOrIndentless then
        sequence fun s => blockItems fuel .indentless s
      else if t = .blockSequenceStart ∧ place ≠ .flow then
        sequence fun s => blockItems fuel .block s.next
      else if t = .blockMappingStart ∧ place ≠ .flow then
        mapping fun s => blockEntries fuel s.next
      else if anchor.isSome || name.isSome then
        s.begin anchor ⟨scalarTag name "" .plain, .scalar ""⟩
      else s.fault .unexpectedToken

/-- The items of a block sequence, each behind a dash. An indentless one ends without a token. -/
def blockItems : Nat → SequenceForm → NodeState → Except SyntaxFault (List NodeId × NodeState)
  | 0, _, s => s.fault .endOfText
  | fuel + 1, form, s =>
    if s.peek = .blockEntry then
      let s := s.next
      let t := s.peek
      let isEmpty := t = .blockEntry ∨ t = .blockEnd ∨
        (form = .indentless ∧ (t = .key ∨ t = .value))
      match if isEmpty then .ok s.addEmpty else node fuel .block s with
      | .error e => .error e
      | .ok (n, s) => (blockItems fuel form s).map fun (ns, s) => (n :: ns, s)
    else
      match form with
      | .indentless => .ok ([], s)
      | .block => if s.peek = .blockEnd then .ok ([], s.next) else s.fault .unexpectedToken

/-- The entries of a block mapping. Key or value may be missing. -/
def blockEntries : Nat → NodeState → Except SyntaxFault (List (NodeId × NodeId) × NodeState)
  | 0, s => s.fault .endOfText
  | fuel + 1, s =>
    let part (s : NodeState) : Except SyntaxFault (NodeId × NodeState) :=
      let t := s.peek
      if t = .key ∨ t = .value ∨ t = .blockEnd then .ok s.addEmpty
      else node fuel .blockOrIndentless s
    if s.peek = .blockEnd then .ok ([], s.next)
    else if s.peek = .key then
      match part s.next with
      | .error e => .error e
      | .ok (k, s) =>
        match if s.peek = .value then part s.next else .ok s.addEmpty with
        | .error e => .error e
        | .ok (v, s) => (blockEntries fuel s).map fun (es, s) => ((k, v) :: es, s)
    else s.fault .unexpectedToken

/-- The items of a flow sequence. A single entry of a mapping may stand as an item. -/
def flowItems : Nat → Bool → NodeState → Except SyntaxFault (List NodeId × NodeState)
  | 0, _, s => s.fault .endOfText
  | fuel + 1, first, s =>
    if s.peek = .flowSequenceEnd then .ok ([], s.next)
    else if !first && s.peek ≠ .flowEntry then s.fault .unexpectedToken
    else
      let s := if first then s else s.next
      if s.peek = .flowSequenceEnd then .ok ([], s.next)
      else
        let item : Except SyntaxFault (NodeId × NodeState) :=
          if s.peek = .key then
            let s := s.next
            let t := s.peek
            match if t = .value ∨ t = .flowEntry ∨ t = .flowSequenceEnd then .ok s.addEmpty
              else node fuel .flow s with
            | .error e => .error e
            | .ok (k, s) =>
              if s.peek = .value then
                let s := s.next
                let t := s.peek
                (if t = .flowEntry ∨ t = .flowSequenceEnd then .ok s.addEmpty
                  else node fuel .flow s).map fun (v, s) => s.add ⟨.map, .map [(k, v)]⟩
              else
                let (v, s) := s.addEmpty
                .ok (s.add ⟨.map, .map [(k, v)]⟩)
          else node fuel .flow s
        match item with
        | .error e => .error e
        | .ok (n, s) => (flowItems fuel false s).map fun (ns, s) => (n :: ns, s)

/-- The entries of a flow mapping. A node without a colon is a key whose value is null. -/
def flowEntries : Nat → Bool → NodeState → Except SyntaxFault (List (NodeId × NodeId) × NodeState)
  | 0, _, s => s.fault .endOfText
  | fuel + 1, first, s =>
    if s.peek = .flowMappingEnd then .ok ([], s.next)
    else if !first && s.peek ≠ .flowEntry then s.fault .unexpectedToken
    else
      let s := if first then s else s.next
      if s.peek = .flowMappingEnd then .ok ([], s.next)
      else
        let entry : Except SyntaxFault ((NodeId × NodeId) × NodeState) :=
          if s.peek = .key then
            let s := s.next
            let t := s.peek
            match if t = .value ∨ t = .flowEntry ∨ t = .flowMappingEnd then .ok s.addEmpty
              else node fuel .flow s with
            | .error e => .error e
            | .ok (k, s) =>
              if s.peek = .value then
                let s := s.next
                let t := s.peek
                (if t = .flowEntry ∨ t = .flowMappingEnd then .ok s.addEmpty
                  else node fuel .flow s).map fun (v, s) => ((k, v), s)
              else
                let (v, s) := s.addEmpty
                .ok ((k, v), s)
          else
            (node fuel .flow s).map fun (k, s) =>
              let (v, s) := s.addEmpty
              ((k, v), s)
        match entry with
        | .error e => .error e
        | .ok (e, s) => (flowEntries fuel false s).map fun (es, s) => (e :: es, s)

end

def defaultHandles : List (String × String) := [("!", "!"), ("!!", "tag:yaml.org,2002:")]

/-- The directives before a document: at most one version, and each handle once. -/
def directives : Nat → Bool → NodeState → Except SyntaxFault NodeState
  | 0, _, s => s.fault .endOfText
  | fuel + 1, versionSeen, s =>
    match s.peek with
    | .directive (.version major _) =>
      if versionSeen then s.fault .duplicateDirective
      else if major ≠ 1 then s.fault .incompatibleVersion
      else directives fuel true s.next
    | .directive (.tag handle text) =>
      if (s.handles.lookup handle).isSome then s.fault .duplicateDirective
      else directives fuel versionSeen { s.next with handles := s.handles ++ [(handle, text)] }
    | .directive .other => directives fuel versionSeen s.next
    | _ =>
      let more := defaultHandles.filter fun h => (s.handles.lookup h.1).isNone
      .ok { s with handles := s.handles ++ more }

/-- Skips the markers that end a document; nothing may follow them. -/
def finish (fuel : Nat) (s : NodeState) : Except SyntaxFault Unit :=
  let s := { s with tokens := s.tokens.dropWhile fun t => t.token = .documentEnd, handles := [] }
  if s.peek = .streamEnd then .ok ()
  else (directives fuel false s).bind fun s => s.fault .secondDocument

/-- The document that begins here, behind its mark if it has one. -/
def document (fuel : Nat) (explicit : Bool) (s : NodeState) : Except SyntaxFault Document :=
  let isEmpty := explicit &&
    match s.peek with
    | .directive _ | .documentStart | .documentEnd | .streamEnd => true
    | _ => false
  match if isEmpty then .ok s.addEmpty else node fuel .block s with
  | .error e => .error e
  | .ok (root, s) => (s.finish fuel).map fun _ => ⟨root, s.nodes⟩

end NodeState

/-- The single document of a token sequence; absent when there is none. -/
def Document.ofTokens (tokens : List Placed) : Except SyntaxFault (Option Document) :=
  let fuel := 4 * tokens.length + 8
  let s : NodeState := { tokens }
  match s.peek with
  | .streamEnd => .ok none
  | .directive _ | .documentStart =>
    (NodeState.directives fuel false s).bind fun s =>
      if s.peek = .documentStart then (s.next.document fuel true).map some
      else s.fault .unexpectedToken
  | _ => ({ s with handles := NodeState.defaultHandles }.document fuel false).map some

end Triage.Yaml
